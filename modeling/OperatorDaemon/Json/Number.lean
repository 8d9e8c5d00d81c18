import OperatorDaemon.Decimal.Shortest
import OperatorDaemon.Json.Tree

/-!
# The values of numbers

A number without fraction and exponent is an integer if it fits into 64 bits; every other number is a
floating-point number, made of as many digits as fit into 64 bits and a power of ten.
-/

namespace OperatorDaemon.Json

/-- The value of a number. -/
inductive NumberValue where
  /-- A natural number below `2 ^ 64`. -/
  | natural (n : Nat)
  /-- The negative of a number from 1 to `2 ^ 63`. -/
  | negative (n : Nat)
  /-- A floating-point number. -/
  | float (f : Float)

/-- Append digits to a number as long as it stays within a limit: the number, how many digits were
appended, and how many were not. -/
def gather (limit n : Nat) : List Nat → Nat × Nat × Nat
  | [] => (n, 0, 0)
  | d :: rest =>
    if n * 10 + d ≤ limit then
      let (m, taken, left) := gather limit (n * 10 + d) rest
      (m, taken + 1, left)
    else (n, 0, rest.length + 1)

/-- Scale by a power of ten in steps that floating-point numbers can take, or find that the result is
beyond them. -/
def scale : Nat → Float → Int → Except Fault Float
  | 0, f, _ => .ok f
  | steps + 1, f, e =>
    if e.natAbs ≤ 308 then
      let power := Float.ofScientific 1 false e.natAbs
      if 0 ≤ e then
        if (f * power).isInf then .error .numberOutOfRange else .ok (f * power)
      else .ok (f / power)
    else if f == 0.0 then .ok f
    else if 0 ≤ e then .error .numberOutOfRange
    else scale steps (f / Float.ofScientific 1 false 308) (e + 308)

/-- The floating-point number of some digits and a power of ten. -/
def floatOf (negative : Bool) (digits : Nat) (e : Int) : Except Fault NumberValue :=
  match scale 4 (UInt64.ofNat digits).toFloat e with
  | .error fault => .error fault
  | .ok f => .ok (.float (if negative then -f else f))

/-- The greatest natural number that counts as an integer. -/
def maxNatural : Nat := 0xFFFFFFFFFFFFFFFF

/-- The magnitude of the least integer, and the place of the sign in the bits of a float. -/
def signPlace : Nat := 0x8000000000000000

/-- The greatest exponent. -/
def maxExponent : Nat := 0x7FFFFFFF

/-- The value of a number. -/
def Number.value (n : Number) : Except Fault NumberValue :=
  let (digits, _, left) := gather maxNatural 0 n.whole
  match n.fraction, n.exponent with
  | [], none =>
    if left ≠ 0 then floatOf n.negative digits left
    else if !n.negative then .ok (.natural digits)
    else if digits = 0 ∨ signPlace < digits then floatOf true digits 0
    else .ok (.negative digits)
  | fraction, exponent =>
    let (digits, taken, _) := gather maxNatural digits fraction
    let start : Int := (left : Int) - taken
    match exponent with
    | none => floatOf n.negative digits start
    | some (below, exponentDigits) =>
      match gather maxExponent 0 exponentDigits with
      | (e, _, 0) => floatOf n.negative digits (if below then start - e else start + e)
      | _ =>
        if digits ≠ 0 ∧ !below then .error .numberOutOfRange
        else floatOf n.negative 0 0

/-! ### The text of a floating-point number -/

/-- The digits of a floating-point number: positional from `10 ^ -5` up to `10 ^ 16`, where whole numbers
keep one zero behind the point, and with a signed exponent outside. -/
def floatText (f : Float) : String :=
  let bits := f.toBits.toNat
  let sign := if signPlace ≤ bits then "-" else ""
  if bits % signPlace = 0 then sign ++ "0.0"
  else
    let (digits, e) := Decimal.shortest (bits % signPlace)
    let text := Nat.toDigits 10 digits
    let top : Int := e + text.length - 1
    if -5 ≤ top ∧ top < 16 then
      let body :=
        if 0 ≤ e then text ++ List.replicate e.toNat '0' ++ ['.', '0']
        else if 0 ≤ top then text.take (top + 1).toNat ++ '.' :: text.drop (top + 1).toNat
        else '0' :: '.' :: List.replicate (-top - 1).toNat '0' ++ text
      sign ++ String.ofList body
    else
      let mantissa := match text with
        | [] => []
        | [d] => [d]
        | d :: rest => d :: '.' :: rest
      let exponent := (if 0 ≤ top then "+" else "-") ++ toString top.natAbs
      sign ++ String.ofList mantissa ++ "e" ++ exponent

/-- How a number is called in a report. -/
def NumberValue.described : NumberValue → String
  | .natural n => "integer `" ++ toString n ++ "`"
  | .negative n => "integer `-" ++ toString n ++ "`"
  | .float f => "floating point `" ++ floatText f ++ "`"

end OperatorDaemon.Json
