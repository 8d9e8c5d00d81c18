import OperatorDaemon.Text.Ascii

/-!
# Decimal numbers of limited size

A number is written in ASCII digits, after a plus sign if one likes. The digits are read in order, and
the first that is none, or that makes the number too large, is the fault.
-/

namespace OperatorDaemon.Integer

/-- Why a text is no number. -/
inductive Fault where
  /-- There is nothing to read. -/
  | empty
  /-- A character is no digit. -/
  | notDigit
  /-- The number is greater than the greatest that fits. -/
  | tooLarge
  deriving DecidableEq, Repr

/-- The wording of a fault. -/
def Fault.message : Fault → String
  | .empty => "cannot parse integer from empty string"
  | .notDigit => "invalid digit found in string"
  | .tooLarge => "number too large to fit in target type"

/-- Read digits on top of the number read so far. -/
def parseDigits (limit : Nat) (value : Nat) : List Char → Except Fault Nat
  | [] => .ok value
  | c :: rest =>
    match decimalValue? c with
    | none => .error .notDigit
    | some digit =>
      let value := value * 10 + digit
      if value ≤ limit then parseDigits limit value rest else .error .tooLarge

/-- The number that a text stands for, at most `limit`. -/
def parse (limit : Nat) (text : String) : Except Fault Nat :=
  match text.toList with
  | [] => .error .empty
  | ['+'] => .error .notDigit
  | '+' :: rest => parseDigits limit 0 rest
  | cs => parseDigits limit 0 cs

theorem le_of_parseDigits {limit value n : Nat} {cs : List Char} (hv : value ≤ limit)
    (h : parseDigits limit value cs = .ok n) : n ≤ limit := by
  induction cs generalizing value with
  | nil => cases h; exact hv
  | cons c rest ih =>
    rw [parseDigits] at h
    split at h
    · cases h
    · simp only at h
      split at h
      next hle => exact ih hle h
      · cases h

end OperatorDaemon.Integer
