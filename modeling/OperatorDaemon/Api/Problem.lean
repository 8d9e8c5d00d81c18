import OperatorDaemon.Json.Value
import OperatorDaemon.Requirement

/-!
# Problems

The form in which the local interface reports errors: a status, a code for programs, and a text for
people.
-/

namespace OperatorDaemon.Api

/-- An error as the local interface reports it. -/
structure Problem where
  /-- The HTTP status. -/
  status : Nat
  /-- The code for programs. -/
  code : String
  /-- The text for people. -/
  message : String
  deriving DecidableEq, Repr

namespace Problem

/-- Something is wrong with the request. -/
def badRequest (message : String) : Problem := ⟨400, "invalid_input", message⟩

/-- The wallet is not fit. -/
def walletNotReady (message : String) : Problem := ⟨409, "wallet_not_ready", message⟩

/-- Something is wrong with the daemon. -/
def internal (message : String) : Problem := ⟨500, "internal_error", message⟩

/-- The problem that an error of the service amounts to. -/
def ofError (e : Service.Error) : Problem :=
  match e.root with
  | .walletNotReady | .walletNotLoaded => walletNotReady e.message
  | .invalidEmail _ | .invalidInput _ => badRequest e.message
  | _ => ⟨500, "nodeset_error", e.message⟩

/-- The problem that an unmet requirement amounts to. -/
def ofRequirement (r : Requirement) : Problem :=
  match r with
  | .noKeystore | .noAddress | .addressMismatch | .walletNotReady => walletNotReady r.message
  | .notRegistered => ⟨409, "not_registered", r.message⟩
  | .unknownStatus .. => ⟨500, "nodeset_error", r.message⟩

/-- The JSON body of a problem. -/
def toJson (p : Problem) : Json.Value :=
  .object [("error", .string p.message), ("error_code", .string p.code)]

end Problem

end OperatorDaemon.Api
