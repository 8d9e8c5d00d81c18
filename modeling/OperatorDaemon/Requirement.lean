import OperatorDaemon.Service.Error
import OperatorDaemon.Session.Status
import OperatorDaemon.Wallet.Status

/-!
# Requirements

What has to hold before a module of the service is used, and what an operator is told when it does not.
-/

namespace OperatorDaemon

/-- A requirement that is not met. -/
inductive Requirement where
  /-- A key has to be loaded. -/
  | noKeystore
  /-- A node address has to be set. -/
  | noAddress
  /-- The key has to belong to the node address. -/
  | addressMismatch
  /-- The node has to be registered. -/
  | notRegistered
  /-- The wallet has to be fit for logging in. -/
  | walletNotReady
  /-- The registration status has to be known. -/
  | unknownStatus (status : Status) (source : Service.Error)
  deriving DecidableEq, Repr

namespace Requirement

/-- What an operator is told. -/
def message : Requirement → String
  | noKeystore => "The node currently does not have a node wallet keystore. Please run " ++
      "'hyperdrive wallet init' or 'hyperdrive wallet recover' and try again."
  | noAddress => "The node currently does not have an address set. Please run " ++
      "'hyperdrive wallet restore-address' or 'hyperdrive wallet masquerade' and try again."
  | addressMismatch => "The node's wallet keystore does not match the node address. This node " ++
      "is currently in read-only mode."
  | notRegistered => "The node is not registered with the Node Set. Please run " ++
      "'hyperdrive nodeset register-node' and try again."
  | walletNotReady => "The node does not have a wallet ready yet. Please run " ++
      "'hyperdrive wallet status' to learn more first."
  | unknownStatus status source =>
    "unknown registration status [" ++ status.title ++ "]: " ++ source.message

/-- Require that the loaded key belongs to the node address. -/
def checkWallet (s : Wallet.Status) : Except Requirement Unit :=
  if !s.keystore.isLoaded then .error noKeystore
  else if !s.address.hasAddress then .error noAddress
  else if s.keystore.walletAddress ≠ s.address.nodeAddress then .error addressMismatch
  else .ok ()

end Requirement

/-- The readiness of a wallet with the given snapshot. -/
def Wallet.Readiness.ofStatus (s : Wallet.Status) : Wallet.Readiness :=
  match Requirement.checkWallet s with
  | .ok () => .ready
  | .error .noAddress => .noAddress
  | .error .addressMismatch => .addressMismatch
  | .error _ => .noKeystore

end OperatorDaemon
