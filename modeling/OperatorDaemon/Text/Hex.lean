import OperatorDaemon.Text.Ascii
import OperatorDaemon.Text.Quoted
import OperatorDaemon.Text.Utf8

/-!
# Hexadecimal text

Bytes are written as two lower-case digits each. Reading takes digits of either case after one
optional `0x`; its faults count positions from behind that mark, in bytes of the text.
-/

namespace OperatorDaemon.Hex

/-- The digits of some bytes. -/
def encodeChars : List UInt8 → List Char
  | [] => []
  | b :: rest => hexDigit (b.toNat / 16) :: hexDigit (b.toNat % 16) :: encodeChars rest

/-- The digits of some bytes as a text. -/
def encode (bs : List UInt8) : String :=
  String.ofList (encodeChars bs)

/-- The digits of some bytes behind `0x`. -/
def encodePrefixed (bs : List UInt8) : String :=
  String.ofList ('0' :: 'x' :: encodeChars bs)

/-- Why a text is no hexadecimal form of bytes. -/
inductive Fault where
  /-- The digits do not come in pairs. -/
  | oddLength
  /-- The digits are too many or too few. -/
  | wrongLength
  /-- The byte at `index`, shown as the character of its value, is no digit. -/
  | notDigit (c : Char) (index : Nat)
  deriving DecidableEq, Repr

/-- The wording of a fault. -/
def Fault.message : Fault → String
  | .oddLength => "odd number of digits"
  | .wrongLength => "invalid string length"
  | .notDigit c index => "invalid character " ++ Quoted.char c ++ s!" at position {index}"

/-- The value of a byte that is a digit. -/
def digit (b : UInt8) : Option Nat :=
  hexValue? (Char.ofNat b.toNat)

/-- The first byte that is no digit. -/
def firstFault (index : Nat) : List UInt8 → Option Fault
  | [] => none
  | b :: rest =>
    if (digit b).isSome then firstFault (index + 1) rest
    else some (.notDigit (Char.ofNat b.toNat) index)

/-- The bytes of pairs of digits; a byte that is no digit counts as zero. -/
def pairs : List UInt8 → List UInt8
  | high :: low :: rest =>
    UInt8.ofNat ((digit high).getD 0 * 16 + (digit low).getD 0) :: pairs rest
  | _ => []

/-- A text without one leading `0x` or `0X`. -/
def dropMark : List UInt8 → List UInt8
  | 0x30 :: 0x78 :: rest => rest
  | 0x30 :: 0x58 :: rest => rest
  | bs => bs

/-- The bytes that the digits behind the mark stand for. -/
def decodeDigits (digits : List UInt8) : Except Fault (List UInt8) :=
  if digits.length % 2 = 1 then .error .oddLength
  else match firstFault 0 digits with
    | some fault => .error fault
    | none => .ok (pairs digits)

/-- The bytes that a text stands for. -/
def decode (text : String) : Except Fault (List UInt8) :=
  decodeDigits (dropMark (Utf8.bytes text))

/-- The `size` bytes that a text stands for. A wrong length is found before a wrong digit. -/
def decodeExactly (size : Nat) (text : String) : Except Fault (List UInt8) :=
  let digits := dropMark (Utf8.bytes text)
  if digits.length % 2 = 1 then .error .oddLength
  else if digits.length ≠ 2 * size then .error .wrongLength
  else match firstFault 0 digits with
    | some fault => .error fault
    | none => .ok (pairs digits)

theorem length_pairs : ∀ {n : Nat} {digits : List UInt8}, digits.length = 2 * n →
    (pairs digits).length = n
  | 0, [], _ => rfl
  | n + 1, _ :: _ :: rest, h => by
    have : rest.length = 2 * n := by simp only [List.length_cons] at h; omega
    simp [pairs, length_pairs this]
  | 0, _ :: _, h => by simp at h
  | n + 1, [], h => by simp at h
  | n + 1, [_], h => by simp only [List.length_cons, List.length_nil] at h; omega

/-- A text read for so many bytes yields so many. -/
theorem length_of_decodeExactly {size : Nat} {text : String} {bs : List UInt8}
    (h : decodeExactly size text = .ok bs) : bs.length = size := by
  unfold decodeExactly at h
  simp only at h
  split at h
  · cases h
  split at h
  · cases h
  next hlen =>
    split at h
    · cases h
    · cases h
      exact length_pairs (by simpa using hlen)

end OperatorDaemon.Hex
