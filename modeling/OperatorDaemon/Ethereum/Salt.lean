import OperatorDaemon.Text.Ascii

/-!
# Salts

A salt is a number of 256 bits. Its text is decimal, or of another radix behind `0x`, `0o` or `0b`;
underscores are skipped, and no digits at all mean zero.
-/

namespace OperatorDaemon

/-- The least number that has more than 256 bits. -/
def saltLimit : Nat :=
  0x10000000000000000000000000000000000000000000000000000000000000000

/-- A number of 256 bits. -/
structure Salt where
  /-- The number. -/
  value : Nat
  /-- It fits into 256 bits. -/
  value_lt : value < saltLimit
  deriving DecidableEq

namespace Salt

instance : Inhabited Salt := ⟨⟨0, by decide⟩⟩

/-- Why a text is no salt. -/
inductive Fault where
  /-- A character is no digit of the radix. -/
  | notDigit (c : Char)
  /-- The number has more than 256 bits. -/
  | tooLarge
  deriving DecidableEq, Repr

/-- The wording of a fault. -/
def Fault.message : Fault → String
  | .notDigit c => "invalid digit: " ++ c.toString
  | .tooLarge => "the value is too large to fit the target type"

/-- The value of a digit of some radix up to sixteen. -/
def digit? (radix : Nat) (c : Char) : Option Nat :=
  (hexValue? c).filter (· < radix)

/-- Read digits on top of the salt read so far. -/
def parseDigits (radix : Nat) (salt : Salt) : List Char → Except Fault Salt
  | [] => .ok salt
  | c :: rest =>
    if c = '_' then parseDigits radix salt rest
    else match digit? radix c with
      | none => .error (.notDigit c)
      | some digit =>
        if h : salt.value * radix + digit < saltLimit then
          parseDigits radix ⟨salt.value * radix + digit, h⟩ rest
        else .error .tooLarge

/-- The salt that characters stand for. -/
def parseChars : List Char → Except Fault Salt
  | '0' :: 'x' :: rest => parseDigits 16 default rest
  | '0' :: 'X' :: rest => parseDigits 16 default rest
  | '0' :: 'o' :: rest => parseDigits 8 default rest
  | '0' :: 'O' :: rest => parseDigits 8 default rest
  | '0' :: 'b' :: rest => parseDigits 2 default rest
  | '0' :: 'B' :: rest => parseDigits 2 default rest
  | cs => parseDigits 10 default cs

/-- The salt that a text stands for. -/
def parse (text : String) : Except Fault Salt :=
  parseChars text.toList

/-- The hexadecimal digits of a number, the greatest first, with none in front that is zero. -/
def digits : Nat → Nat → List Char
  | 0, _ => []
  | places + 1, n => if n < 16 then [hexDigit n] else digits places (n / 16) ++ [hexDigit (n % 16)]

/-- The shortest hexadecimal text behind `0x`. -/
def hex (s : Salt) : String :=
  String.ofList ('0' :: 'x' :: digits 64 s.value)

end Salt

end OperatorDaemon
