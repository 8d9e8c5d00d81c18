import Mathlib.Tactic.Common
import OperatorDaemon.Api.Router

/-!
# Errors within operations

An error may have arisen in an operation that is part of another one, and so on to any depth. All these operations
are told in front of its text. Whatever is decided about an error is decided by its root, so it does not depend on
them.
-/

namespace OperatorDaemon

/-! ### Operations around an error -/

namespace Service.Error

/-- An error that arose in operations, each of them part of the one before it. -/
def within (operations : List String) (e : Error) : Error :=
  operations.foldr during e

/-- The operations in which an error arose, each of them part of the one before it. -/
def operations : Error → List String
  | during operation source => operation :: source.operations
  | _ => []

/-- What is told about operations in front of the text of an error. -/
def preamble (operations : List String) : String :=
  String.join (operations.map fun operation => "error " ++ operation ++ ": ")

@[simp] lemma within_nil (e : Error) : e.within [] = e := rfl

@[simp] lemma within_cons (operation : String) (operations : List String) (e : Error) :
    e.within (operation :: operations) = during operation (e.within operations) := rfl

@[simp] lemma preamble_nil : preamble [] = "" := String.join_nil

@[simp] lemma preamble_cons (operation : String) (operations : List String) :
    preamble (operation :: operations) = "error " ++ operation ++ ": " ++ preamble operations :=
  String.join_cons

/-- An error is its root within its operations. -/
lemma within_operations (e : Error) : e.root.within e.operations = e := by
  induction e with
  | during operation source ih => exact congrArg (during operation) ih
  | _ => rfl

lemma root_ne_during (e : Error) (operation : String) (source : Error) : e.root ≠ during operation source := by
  induction e with
  | during operation' source' ih => exact ih
  | _ => exact Error.noConfusion

variable (operations : List String) (e : Error)

@[simp] lemma root_within : (e.within operations).root = e.root := by
  induction operations with
  | nil => rfl
  | cons operation operations ih => rw [within_cons, root_during, ih]

@[simp] lemma isInvalidSession_within : (e.within operations).isInvalidSession = e.isInvalidSession := by
  rw [isInvalidSession, root_within, isInvalidSession]

lemma message_within : (e.within operations).message = preamble operations ++ e.message := by
  induction operations with
  | nil => rw [within_nil, preamble_nil, String.empty_append]
  | cons operation operations ih =>
    rw [within_cons, message_during, ih, preamble_cons, ← String.append_assoc]

end Service.Error

/-! ### Reports -/

namespace Api

open Service (Error)

/-- Errors with the same root are reported in the same way, each with its own text. -/
lemma Problem.ofError_eq_of_root {e e' : Error} (h : e.root = e'.root) :
    ofError e = { ofError e' with message := e.message } := by
  unfold ofError
  rw [h]
  split <;> rfl

/-- The operations in which an error arose are told in front of its text, the outermost first, and they change
nothing else. The root is the same, which is what is left of an error without all its operations. So are the need to
open the session anew, and the status and the code under which the error is reported. The whole text is what an
answer tells as the error. -/
theorem operations_change_only_text (e : Error) (operations : List String) :
    (e.within operations).root = e.root ∧
      (∀ operation source, (e.within operations).root ≠ .during operation source) ∧
      e.root.within e.operations = e ∧
      (e.within operations).isInvalidSession = e.isInvalidSession ∧
      (e.within operations).message = Error.preamble operations ++ e.message ∧
      Problem.ofError (e.within operations) =
        { Problem.ofError e with message := Error.preamble operations ++ e.message } ∧
      Response.ofError (e.within operations) = .json (Problem.ofError e).status
        (.object [("error", .string (Error.preamble operations ++ e.message)),
          ("error_code", .string (Problem.ofError e).code)]) := by
  have hroot := e.root_within operations
  have hmessage := e.message_within operations
  have hproblem : Problem.ofError (e.within operations) =
      { Problem.ofError e with message := Error.preamble operations ++ e.message } := by
    rw [Problem.ofError_eq_of_root hroot, hmessage]
  refine ⟨hroot, (e.within operations).root_ne_during, e.within_operations,
    e.isInvalidSession_within operations, hmessage, hproblem, ?_⟩
  rw [Response.ofError, hproblem]
  rfl

/-- A session that has expired during two operations, one part of the other. -/
example : (Error.invalidSession.within ["handling request", "getting vaults"]).message =
    "error handling request: error getting vaults: session is invalid or has expired" := by decide

end Api

end OperatorDaemon
