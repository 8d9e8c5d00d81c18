import OperatorDaemon.Email
import OperatorDaemon.Session.Login

/-!
# Registration

The operator registers the node under the email address of a user of the service. A registration that the
service accepts is followed by a login, whose outcome does not matter for the registration.
-/

namespace OperatorDaemon

open Service (Error NodeAddressRequest)

/-- The outcome of a registration. -/
inductive Registration where
  /-- Nothing is known about it. No registration comes to this. -/
  | unknown
  /-- The node is registered now. -/
  | success
  /-- The node was registered before. -/
  | alreadyRegistered
  /-- The user has not allowed the node. -/
  | notWhitelisted
  deriving DecidableEq, Repr

/-- The wish of a key to be registered under an email address. -/
def Service.NodeAddressRequest.signed (key : PrivateKey) (email : String) : NodeAddressRequest where
  email
  nodeAddress := key.address.checksummed
  signature :=
    Hex.encodePrefixed (key.sign (Utf8.bytes (Service.nodeAddressMessage email key.address)))

/-- What a refused registration amounts to. -/
def Registration.ofRefusal : Error → Except Error Registration
  | .alreadyRegistered => .ok .alreadyRegistered
  | .notWhitelisted => .ok .notWhitelisted
  | error => .error (.during "registering node" error)

namespace Act

/-- Register a key under an email address in its common form. -/
def registerKey (key : PrivateKey) (email : String) : Act (Except Error Registration) := do
  match ← call (.nodeAddress (.signed key email)) with
  | .ok _ =>
    let _ ← logIn
    return .ok .success
  | .error error =>
    modifySession Session.withDoubt
    return Registration.ofRefusal error

/-- Register the node under an email address. -/
def register (text : String) : Act (Except Error Registration) := do
  match Email.normalize? text with
  | none => return .error (.invalidEmail (trim text))
  | some email =>
    match (← world).wallet.key with
    | none => return .error .walletNotLoaded
    | some key => registerKey key email

end Act

end OperatorDaemon
