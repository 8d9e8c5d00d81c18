import OperatorDaemon.Ethereum.Address

/-!
# Messages that the wallet signs

One message answers a challenge, the other registers the node under an email address.
-/

namespace OperatorDaemon.Service

/-- The message that answers a challenge. -/
def loginMessage (nonce : String) (address : Address) : String :=
  "nonce=" ++ nonce ++ "\naddress=" ++ address.checksummed

/-- The message that registers a node under an email address. -/
def nodeAddressMessage (email : String) (address : Address) : String :=
  "email=" ++ email ++ "\nnodeAddress=" ++ address.checksummed

end OperatorDaemon.Service
