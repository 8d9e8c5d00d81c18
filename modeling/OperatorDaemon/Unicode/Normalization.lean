import OperatorDaemon.Unicode.CombiningData
import OperatorDaemon.Unicode.CompositionData
import OperatorDaemon.Unicode.Packed
import OperatorDaemon.Unicode.SequenceData
import OperatorDaemon.Unicode.SingleData

/-!
# Compatibility normalization

A text is taken apart into the simplest characters, the marks behind each starter are put in the order
of their classes, and what can be composed again is composed. The result is the form NFKC.
-/

namespace OperatorDaemon.Unicode

/-! ### Taking apart -/

/-- The characters that decompose into one. -/
def singles : List Nat := unpack singleRows

/-- The characters that decompose into several. -/
def sequences : List Nat := unpack sequenceRows

/-- The jamo of a Hangul syllable. -/
def decomposeHangul (n : Nat) : List Char :=
  let index := n - 0xAC00
  let lead := Char.ofNat (0x1100 + index / 588)
  let vowel := Char.ofNat (0x1161 + index % 588 / 28)
  if index % 28 = 0 then [lead, vowel] else [lead, vowel, Char.ofNat (0x11A7 + index % 28)]

/-- The compatibility decomposition of a character. -/
def decompose (c : Char) : List Char :=
  let n := c.toNat
  if n < 0xA0 then [c]
  else if 0xAC00 ≤ n ∧ n ≤ 0xD7A3 then decomposeHangul n
  else match imageInRuns n singles with
    | some image => [Char.ofNat image]
    | none =>
      match entryOf n false sequences with
      | some image => image.map Char.ofNat
      | none => [c]

/-! ### Putting marks in order -/

/-- The runs of combining classes. -/
def combiningRuns : List Nat := unpack combiningRows

/-- The combining class of a character; a starter has class zero. -/
def combiningClass (c : Char) : Nat :=
  if c.toNat < 0x300 then 0 else (valueInRuns c.toNat combiningRuns).getD 0

/-- Put a character in front of ordered ones, moving it behind the marks of a lower class. -/
def insertMark (c : Char) : List Char → List Char
  | [] => [c]
  | d :: rest =>
    if combiningClass d ≠ 0 ∧ combiningClass d < combiningClass c then d :: insertMark c rest
    else c :: d :: rest

/-- The canonical order: marks behind a starter stand in the order of their classes. -/
def orderMarks (cs : List Char) : List Char :=
  cs.foldr insertMark []

/-! ### Composing -/

/-- The triples of two characters and their composition. -/
def compositions : List Nat := unpack compositionRows

/-- The syllable that jamo, or a syllable and a final consonant, compose into. -/
def composeHangul (a b : Nat) : Option Nat :=
  if 0x1100 ≤ a ∧ a ≤ 0x1112 ∧ 0x1161 ≤ b ∧ b ≤ 0x1175 then
    some (0xAC00 + ((a - 0x1100) * 21 + (b - 0x1161)) * 28)
  else if 0xAC00 ≤ a ∧ a ≤ 0xD7A3 ∧ (a - 0xAC00) % 28 = 0 ∧ 0x11A8 ≤ b ∧ b ≤ 0x11C2 then
    some (a + (b - 0x11A7))
  else none

/-- The character that two compose into. -/
def composePair (a b : Char) : Option Char :=
  if b.toNat < 0x300 then none
  else match composeHangul a.toNat b.toNat with
    | some n => some (Char.ofNat n)
    | none => (thirdOf a.toNat b.toNat compositions).map Char.ofNat

/-- Compose characters with the last starter. `marks` are the characters that stayed behind it, the
last of them first; one of no lower class than the next character blocks it. -/
def composeFrom (starter : Char) (marks : List Char) : List Char → List Char
  | [] => starter :: marks.reverse
  | c :: rest =>
    let blocked := match marks with
      | [] => false
      | m :: _ => combiningClass c ≤ combiningClass m
    match if blocked then none else composePair starter c with
    | some composed => composeFrom composed marks rest
    | none =>
      if combiningClass c = 0 then starter :: (marks.reverse ++ composeFrom c [] rest)
      else composeFrom starter (c :: marks) rest

/-- Compose whatever can be composed. -/
def compose : List Char → List Char
  | [] => []
  | c :: rest => if combiningClass c = 0 then composeFrom c [] rest else c :: compose rest

/-- The form NFKC of a list of characters. -/
def nfkcChars (cs : List Char) : List Char :=
  compose (orderMarks (cs.flatMap decompose))

/-- The form NFKC of a text. -/
def nfkc (s : String) : String :=
  String.ofList (nfkcChars s.toList)

@[simp] theorem toList_nfkc (s : String) : (nfkc s).toList = nfkcChars s.toList := by
  simp [nfkc]

end OperatorDaemon.Unicode
