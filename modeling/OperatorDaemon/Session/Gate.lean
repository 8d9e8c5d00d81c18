import OperatorDaemon.Requirement
import OperatorDaemon.Session.Login

/-!
# The gate in front of the modules

The modules of the service are for registered nodes. Before one is used, the wallet has to be ready and
the registration status is looked up. In the background the daemon waits until the node is registered.
-/

namespace OperatorDaemon

namespace Act

/-- Require that the wallet is ready. -/
def requireWallet : Act (Except Requirement Unit) := do
  return Requirement.checkWallet (← world).walletStatus

/-- Require that the node is registered. -/
def requireRegistered : Act (Except Requirement Unit) := do
  let (status, error?) ← registrationStatus
  match status with
  | .registered => return .ok ()
  | .unregistered => return .error .notRegistered
  | .noWallet => return .error .walletNotReady
  | .unknown =>
    let error := error?.getD (.invalidResponse "registration status could not be determined")
    return .error (.unknownStatus status error)

end Act

/-! ### Waiting -/

/-- How waiting for the registration ends. -/
inductive Waiting where
  /-- The node is registered. -/
  | registered
  /-- The daemon is shut down. -/
  | shutDown
  /-- Not at all. -/
  | unending
  deriving DecidableEq, Repr

namespace Act

/-- Look at the registration status up to so many times, and tell whether the node was not registered at
any of them. -/
def poll : (times : Nat) → Act Bool
  | 0 => return true
  | times + 1 => do
    let (status, _) ← registrationStatus
    if status = .registered then return false else poll times

/-- Wait for the registration, in a daemon that is shut down so many looks after the first one, or never.
The shutdown may come at any time, and is noticed when the look that goes on has come to its end. In a
daemon that is never shut down it suffices to look once more than the service replies: a look without a
reply changes nothing, and every further one would go like it. -/
def wait (moreLooks? : Option Nat) : Act Waiting := do
  let w ← world
  if ← poll (moreLooks?.getD w.replies.length + 1) then
    return if moreLooks?.isSome then .shutDown else .unending
  else return .registered

end Act

end OperatorDaemon
