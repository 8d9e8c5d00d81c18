import OperatorDaemon.Text.Quoted
import OperatorDaemon.Unicode.LabelData
import OperatorDaemon.Unicode.Lowercase
import OperatorDaemon.Unicode.Normalization

/-!
# The characters of domain labels

Which characters have no place in a label of a domain name, how capitals and their like are folded, where
joiners may stand, and how characters of different directions may be put together.
-/

namespace OperatorDaemon.Domain

open Unicode (inRanges unpack)

/-! ### Characters without a place -/

/-- The characters that domain names do without. -/
def isIgnored (c : Char) : Bool :=
  inRanges c.toNat
    [0xAD, 0xAE, 0x34F, 0x350, 0x115F, 0x1161, 0x17B4, 0x17B6, 0x180B, 0x1810, 0x200B, 0x200C, 0x2060, 0x2065,
      0x206A, 0x2070, 0x3164, 0x3165, 0xFE00, 0xFE10, 0xFEFF, 0xFF00, 0xFFA0, 0xFFA1, 0x1BCA0, 0x1BCA4,
      0x1D173, 0x1D17B, 0xE0100, 0xE01F0]

/-- The full stops that count as dots. -/
def isDot (c : Char) : Bool :=
  c = '.' || c = '\u3002' || c = '\uFF0E' || c = '\uFF61'

/-- The characters that make their neighbours join or keep them apart. -/
def isJoiner (c : Char) : Bool :=
  c = '\u200C' || c = '\u200D'

/-- The characters beyond ASCII that no domain name has: those that are not seen, and some that would bring
dots with them or describe other characters. Blanks are among them, since they would stand for one in ASCII. -/
def isDisallowed (c : Char) : Bool :=
  (inRanges c.toNat Quoted.unprintableRanges && !isJoiner c) ||
    inRanges c.toNat
      [0x2024, 0x2027, 0x2488, 0x249C, 0x2FF0, 0x3000, 0x31EF, 0x31F0, 0x33C2, 0x33C3, 0x33C7, 0x33C8,
        0x33D8, 0x33D9, 0xFE12, 0xFE13, 0xFE19, 0xFE1A, 0xFE30, 0xFE31, 0xFE52, 0xFE53, 0xFFFC, 0xFFFE,
        0x1F100, 0x1F101]

/-! ### Folding -/

/-- The runs of characters that are not folded to their lower-case forms: the iota below other letters, the
sigmas, Cherokee, whose capitals are the common form, and old forms of Cyrillic letters. -/
def foldRuns : List Nat :=
  [0x345, 0x345, 0x3B9, 0x3A3, 0x3A3, 0x3C3, 0x3C2, 0x3C2, 0x3C3, 0x13A0, 0x13F5, 0x13A0,
    0x13F8, 0x13FD, 0x13F0, 0x1C80, 0x1C80, 0x432, 0x1C81, 0x1C81, 0x434, 0x1C82, 0x1C82, 0x43E,
    0x1C83, 0x1C84, 0x441, 0x1C85, 0x1C85, 0x442, 0x1C86, 0x1C86, 0x44A, 0x1C87, 0x1C87, 0x463,
    0x1C88, 0x1C88, 0xA64B, 0xAB70, 0xABBF, 0x13A0]

/-- The form of a character for comparisons without regard to case. -/
def foldChar (c : Char) : List Char :=
  match Unicode.imageInRuns c.toNat foldRuns with
  | some image => [Char.ofNat image]
  | none => Unicode.lowercaseChar c

/-! ### Marks -/

def nonspacingRanges : List Nat := unpack Unicode.nonspacingRows

def spacingRanges : List Nat := unpack Unicode.spacingRows

/-- Whether a character is a mark, and so cannot come first. -/
def isMark (c : Char) : Bool :=
  inRanges c.toNat nonspacingRanges || inRanges c.toNat spacingRanges

/-! ### Joiners -/

def joiningRuns : List Nat := unpack Unicode.joiningRows

def joinsNext (c : Char) : Bool :=
  (Unicode.valueInRuns c.toNat joiningRuns).any fun kind => kind = 1 || kind = 3

def joinsPrevious (c : Char) : Bool :=
  (Unicode.valueInRuns c.toNat joiningRuns).any fun kind => kind = 2 || kind = 3

/-- Whether characters join across a character. -/
def isTransparent (c : Char) : Bool :=
  inRanges c.toNat nonspacingRanges || c.toNat = 0x1E94B

/-- The first character that is not joined across. -/
def firstJoining? (cs : List Char) : Option Char :=
  (cs.dropWhile isTransparent).head?

/-- The combining class of the signs that take the vowel from a consonant. -/
def viramaClass : Nat := 9

/-- Whether a joiner may stand behind some characters, the last of them first, and in front of others. It may
follow a sign that takes a vowel away, and the one that keeps apart may part what would join. -/
def mayJoin (joiner : Char) (before after : List Char) : Bool :=
  (before.head?.any fun c => Unicode.combiningClass c = viramaClass) ||
    (joiner = '\u200C' && (firstJoining? before).any joinsNext && (firstJoining? after).any joinsPrevious)

/-- Whether all joiners may stand where they do; `before` are the characters in front, the last of them first. -/
def areJoinersInPlace (before : List Char) : List Char → Bool
  | [] => true
  | c :: rest => (!isJoiner c || mayJoin c before rest) && areJoinersInPlace (c :: before) rest

/-! ### Directions -/

def rightToLeftRanges : List Nat := unpack Unicode.rightToLeftRows

def neutralRanges : List Nat := unpack Unicode.neutralRows

/-- The direction of a character, as far as labels are concerned: the numbers of Arabic have one of their own,
and a mark goes with what is in front of it. -/
inductive Direction where
  | leftToRight
  | rightToLeft
  | europeanDigit
  | arabicDigit
  | mark
  | neutral
  deriving DecidableEq, Repr

/-- The direction of a character that domain names may have. -/
def direction (c : Char) : Direction :=
  let n := c.toNat
  if inRanges n rightToLeftRanges then .rightToLeft
  else if inRanges n [0x660, 0x66A, 0x66B, 0x66D, 0x10D30, 0x10D3A, 0x10D40, 0x10D4A, 0x10E60, 0x10E7F] then
    .arabicDigit
  else if inRanges n [0x30, 0x3A, 0x6F0, 0x6FA, 0x102E1, 0x102FC] then .europeanDigit
  -- A few marks of Kannada, Zanabazar and Bhaiksuki count as letters here.
  else if inRanges n nonspacingRanges &&
      !inRanges n [0xCBF, 0xCC0, 0xCC6, 0xCC7, 0x11A07, 0x11A09, 0x11C3F, 0x11C40] then .mark
  else if inRanges n neutralRanges then .neutral
  else .leftToRight

/-- Whether a character makes a name one of both directions. -/
def turnsAround (c : Char) : Bool :=
  -- All such characters come after the Armenian ones, which most names need no table for.
  0x590 ≤ c.toNat && (direction c = .rightToLeft || direction c = .arabicDigit)

/-- Whether a label keeps to the direction of its first character. The marks at its end do not count, and what
comes last besides them is a letter or a digit. -/
def keepsDirection : List Char → Bool
  | [] => true
  | first :: rest =>
    -- Marks at the end go with what is in front of them, so that the label ends there.
    let directions := ((rest.map direction).reverse.dropWhile (· = .mark)).reverse
    match direction first with
    | .leftToRight =>
      directions.getLast?.all (fun d => d = .leftToRight || d = .europeanDigit) &&
        directions.all fun d => d ≠ .rightToLeft && d ≠ .arabicDigit
    | .rightToLeft =>
      directions.getLast?.all (fun d => d = .rightToLeft || d = .europeanDigit || d = .arabicDigit) &&
        !directions.contains .leftToRight &&
        !(directions.contains .europeanDigit && directions.contains .arabicDigit)
    | _ => false

/-- Whether labels keep to their directions, if there is need to. -/
def areDirected (labels : List (List Char)) : Bool :=
  !(labels.any fun label => label.any turnsAround) || labels.all keepsDirection

end OperatorDaemon.Domain
