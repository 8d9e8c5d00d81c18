import OperatorDaemon.Service.Message
import OperatorDaemon.Session.Act

/-!
# Logging in

To log in, the daemon asks for a challenge and answers it with a signature of the node. The token of the
challenge counts from the moment it is known, and that of the service's grant replaces it. A login that
fails leaves a known status as it is.
-/

namespace OperatorDaemon

open Service (Challenge Error LoginRequest)

namespace Session

/-- The session with another token. -/
def withToken (s : Session) (token : String) : Session :=
  { s with token := some token }

/-- The session with another status. -/
def withStatus (s : Session) (status : Status) : Session :=
  { s with status }

/-- The session after a failure: a status that is not known is unknown now. -/
def withDoubt (s : Session) : Session :=
  if s.status.isKnown then s else s.withStatus .unknown

/-- The session after the service has let the node in. -/
def admitted (s : Session) (token now : String) : Session :=
  { s.withToken token with status := .registered, lastLogin := some now }

end Session

/-- The answer of a key to a challenge. -/
def Service.LoginRequest.answering (key : PrivateKey) (challenge : Challenge) : LoginRequest where
  nonce := challenge.nonce
  address := key.address.checksummed
  signature :=
    Hex.encodePrefixed (key.sign (Utf8.bytes (Service.loginMessage challenge.nonce key.address)))

namespace Act

/-- Answer a challenge. The service may let the node in or not know it; both complete the login. -/
def answer (key : PrivateKey) (challenge : Challenge) : Act (Except Error Unit) := do
  match ← call (.login (.answering key challenge)) with
  | .ok grant =>
    let time ← now
    modifySession (·.admitted grant.token time)
    return .ok ()
  | .error .unregisteredNode =>
    modifySession (·.withStatus .unregistered)
    return .ok ()
  | .error .walletNotLoaded =>
    modifySession (·.withStatus .noWallet)
    return .error .walletNotLoaded
  | .error error =>
    modifySession Session.withDoubt
    return .error (.during "logging in" error)

/-- Log in with a key. -/
def logInWith (key : PrivateKey) : Act (Except Error Unit) := do
  match ← call .nonce with
  | .error error =>
    modifySession Session.withDoubt
    return .error (.during "getting nonce for login" error)
  | .ok challenge =>
    modifySession (·.withToken challenge.token)
    answer key challenge

/-- Log in, if the wallet is ready. -/
def logIn : Act (Except Error Unit) := do
  let key? := (← world).wallet.readyKey?
  record (.loginStarted key?.isSome)
  match key? with
  | none =>
    modifySession (·.withStatus .noWallet)
    return .error .walletNotReady
  | some key => logInWith key

/-- The registration status, after a login if it is not known, and why that failed. -/
def registrationStatus : Act (Status × Option Error) := do
  let status := (← world).session.status
  if status.isKnown then return (status, none)
  else
    match ← logIn with
    | .ok () => return ((← world).session.status, none)
    | .error error => return ((← world).session.status, some error)

/-- Make a call, and make it again after a login if the session turns out to be invalid. -/
def request (c : Service.Call) : Act (Except Error c.Data) := do
  match ← call c with
  | .ok data => return .ok data
  | .error error =>
    if error.isInvalidSession then
      match ← logIn with
      | .ok () => call c
      | .error error => return .error error
    else return .error error

end Act

end OperatorDaemon
