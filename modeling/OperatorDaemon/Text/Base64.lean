import OperatorDaemon.Text.Ascii

/-!
# Base64

Bytes as characters of six bits, padded to groups of four, and canonical: bits of the last character
that belong to no byte are zero. Every group but the last is full.
-/

namespace OperatorDaemon.Base64

/-- Why characters are no Base64 text. -/
inductive Fault where
  /-- The byte at a place belongs to no text. -/
  | invalidByte (byte : UInt8) (index : Nat)
  /-- The last group has one character only; so many characters make sense. -/
  | invalidLength (count : Nat)
  /-- The last character has bits that belong to no byte. -/
  | invalidLast (byte : UInt8) (index : Nat)
  /-- The last group is not padded. -/
  | invalidPadding
  deriving DecidableEq, Repr

/-- The wording of a fault. -/
def Fault.message : Fault → String
  | .invalidByte byte index => s!"Invalid symbol {byte.toNat}, offset {index}."
  | .invalidLength count => s!"Invalid input length: {count}"
  | .invalidLast byte index => s!"Invalid last symbol {byte.toNat}, offset {index}."
  | .invalidPadding => "Invalid padding"

/-! ### Writing -/

/-- The character of six bits. -/
def symbol (n : Nat) : Char :=
  if n < 26 then Char.ofNat (65 + n)
  else if n < 52 then Char.ofNat (71 + n)
  else if n < 62 then Char.ofNat (n - 4)
  else if n = 62 then '+'
  else '/'

/-- The characters of some bytes. -/
def encodeChars : List UInt8 → List Char
  | a :: b :: c :: rest =>
    let n := (a.toNat * 256 + b.toNat) * 256 + c.toNat
    symbol (n / 262144) :: symbol (n / 4096 % 64) :: symbol (n / 64 % 64) :: symbol (n % 64) ::
      encodeChars rest
  | [a, b] =>
    let n := a.toNat * 256 + b.toNat
    [symbol (n / 1024), symbol (n / 16 % 64), symbol (n % 16 * 4), '=']
  | [a] => [symbol (a.toNat / 4), symbol (a.toNat % 4 * 16), '=', '=']
  | [] => []

/-- The text of some bytes. -/
def encode (bs : List UInt8) : String :=
  String.ofList (encodeChars bs)

/-! ### Reading -/

/-- The six bits of a character. -/
def value (b : UInt8) : Option Nat :=
  let n := b.toNat
  if 65 ≤ n ∧ n ≤ 90 then some (n - 65)
  else if 97 ≤ n ∧ n ≤ 122 then some (n - 71)
  else if 48 ≤ n ∧ n ≤ 57 then some (n + 4)
  else if n = 43 then some 62
  else if n = 47 then some 63
  else none

/-- The byte that pads the last group. -/
def padding : UInt8 := 61

/-- The values of characters, the first of which stands at `index`. -/
def values (index : Nat) : List UInt8 → Except Fault (List Nat)
  | [] => .ok []
  | b :: rest =>
    match value b with
    | none => .error (.invalidByte b index)
    | some v => (values (index + 1) rest).map (v :: ·)

/-- The bytes of full groups of values. -/
def bytesOfValues : List Nat → List UInt8
  | a :: b :: c :: d :: rest =>
    UInt8.ofNat (a * 4 + b / 16) :: UInt8.ofNat (b % 16 * 16 + c / 4) ::
      UInt8.ofNat (c % 4 * 64 + d) :: bytesOfValues rest
  | _ => []

/-- The characters of the last group in front of its padding and the number of padding bytes. The group
starts at `index`; `place` characters of it have been read, and padding from `firstPad` on. -/
def lastGroup (index place : Nat) (firstPad : Option Nat) : List UInt8 →
    Except Fault (List (UInt8 × Nat) × Nat)
  | [] => .ok ([], 0)
  | b :: rest =>
    if b = padding then
      if place < 2 then .error (.invalidByte b (index + place))
      else (lastGroup index (place + 1) (some (firstPad.getD place)) rest).map
        fun (group, pads) => (group, pads + 1)
    else match firstPad with
      | some place => .error (.invalidByte padding (index + place))
      | none =>
        match value b with
        | none => .error (.invalidByte b (index + place))
        | some v => (lastGroup index (place + 1) none rest).map
          fun (group, pads) => ((b, v) :: group, pads)

/-- The bytes of the last group, which starts at `index`. -/
def decodeLast (index : Nat) (group : List UInt8) : Except Fault (List UInt8) := do
  let (symbols, pads) ← lastGroup index 0 none group
  match symbols with
  | [] | [_] => .error (.invalidLength (index + symbols.length))
  | [(_, a), (last, b)] =>
    if pads ≠ 2 then .error .invalidPadding
    else if b % 16 ≠ 0 then .error (.invalidLast last (index + 1))
    else .ok [UInt8.ofNat (a * 4 + b / 16)]
  | [(_, a), (_, b), (last, c)] =>
    if pads ≠ 1 then .error .invalidPadding
    else if c % 4 ≠ 0 then .error (.invalidLast last (index + 2))
    else .ok [UInt8.ofNat (a * 4 + b / 16), UInt8.ofNat (b % 16 * 16 + c / 4)]
  | symbols => .ok (bytesOfValues (symbols.map (·.2)))

/-- The bytes that a text stands for. A last byte that belongs to no text is found first when it stands
alone in its group. -/
def decode (text : List UInt8) : Except Fault (List UInt8) :=
  let size := text.length
  let full := if size % 4 = 0 then size - 4 else size - size % 4
  match text.getLast? with
  | none => .ok []
  | some last =>
    if size % 4 = 1 ∧ last ≠ padding ∧ (value last).isNone then
      .error (.invalidByte last (size - 1))
    else do
      let first ← values 0 (text.take full)
      let rest ← decodeLast full (text.drop full)
      return bytesOfValues first ++ rest

end OperatorDaemon.Base64
