import OperatorDaemon.Ethereum.Address
import OperatorDaemon.Json.Value

/-!
# The status of the wallet

A snapshot of the wallet, and whether the wallet is fit for dealing with the service: a key is loaded, a
node address is set, and it is the address of the key.
-/

namespace OperatorDaemon.Wallet

/-- The node address in a snapshot. -/
structure AddressStatus where
  /-- The node address, or the address of nobody. -/
  nodeAddress : Address
  /-- Whether a node address is set. -/
  hasAddress : Bool
  deriving DecidableEq

/-- The JSON form of the node address in a snapshot. -/
def AddressStatus.toJson (s : AddressStatus) : Json.Value :=
  .object [("nodeAddress", .string s.nodeAddress.hex), ("hasAddress", .bool s.hasAddress)]

/-- The key in a snapshot. -/
structure KeystoreStatus where
  /-- Whether a key is loaded. -/
  isLoaded : Bool
  /-- Whether the file of the key is there. -/
  isOnDisk : Bool
  /-- The address of the loaded key, or the address of nobody. -/
  walletAddress : Address
  deriving DecidableEq

/-- The JSON form of the key in a snapshot. -/
def KeystoreStatus.toJson (s : KeystoreStatus) : Json.Value :=
  .object [("isLoaded", .bool s.isLoaded), ("isOnDisk", .bool s.isOnDisk),
    ("walletAddress", .string s.walletAddress.hex)]

/-- A snapshot of the wallet. -/
structure Status where
  /-- The node address. -/
  address : AddressStatus
  /-- The key. -/
  keystore : KeystoreStatus
  deriving DecidableEq

/-- Whether the wallet is fit, and what it lacks if not. -/
inductive Readiness where
  /-- Nothing is lacking. -/
  | ready
  /-- No key is loaded. -/
  | noKeystore
  /-- No node address is set. -/
  | noAddress
  /-- The node address is not that of the key. -/
  | addressMismatch
  deriving DecidableEq, Repr

/-- The name of a readiness on the wire. -/
def Readiness.name : Readiness → String
  | ready => "ready"
  | noKeystore => "no_keystore"
  | noAddress => "no_address"
  | addressMismatch => "address_mismatch"

namespace Status

/-- Whether the loaded key belongs to the node address. -/
def isReady (s : Status) : Bool :=
  s.keystore.isLoaded && s.address.hasAddress &&
    s.keystore.walletAddress == s.address.nodeAddress

/-- The JSON form of a snapshot. -/
def toJson (s : Status) : Json.Value :=
  .object [("address", s.address.toJson), ("wallet", s.keystore.toJson)]

end Status

end OperatorDaemon.Wallet
