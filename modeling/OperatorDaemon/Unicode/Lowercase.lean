import OperatorDaemon.Text.Ascii
import OperatorDaemon.Unicode.CaseData
import OperatorDaemon.Unicode.Packed

/-!
# Lower case

Every character has its own lower-case form but the capital sigma, which becomes the final sigma at the
end of a word.
-/

namespace OperatorDaemon.Unicode

/-- The ranges of cased characters. -/
def casedRanges : List Nat := unpack casedRows

/-- The ranges of characters that case rules look through. -/
def caseIgnorableRanges : List Nat := unpack caseIgnorableRows

/-- The runs of lower-case forms. -/
def lowercaseRuns : List Nat := unpack lowercaseRows

/-- Whether a character has a case. -/
def isCased (c : Char) : Bool := inRanges c.toNat casedRanges

/-- Whether case rules look through a character. -/
def isCaseIgnorable (c : Char) : Bool := inRanges c.toNat caseIgnorableRanges

/-- Whether the first character that is not looked through is cased. -/
def beginsCased (cs : List Char) : Bool :=
  match cs.dropWhile isCaseIgnorable with
  | [] => false
  | c :: _ => isCased c

/-- The lower-case form of a character outside its context. -/
def lowercaseChar (c : Char) : List Char :=
  if c.toNat < 0x80 then [asciiLower c]
  else if c = '\u0130' then ['i', '\u0307']
  else match imageInSteps c.toNat lowercaseRuns with
    | some image => [Char.ofNat image]
    | none => [c]

/-- The lower-case form of characters, where `before` are those in front, the last of them first. -/
def lowercaseFrom (before : List Char) : List Char → List Char
  | [] => []
  | c :: rest =>
    let image :=
      if c = '\u03A3' then
        if beginsCased before && !beginsCased rest then ['\u03C2'] else ['\u03C3']
      else lowercaseChar c
    image ++ lowercaseFrom (c :: before) rest

/-- The lower-case form of a list of characters. -/
def lowercaseChars (cs : List Char) : List Char :=
  lowercaseFrom [] cs

/-- The lower-case form of a text. -/
def lowercase (s : String) : String :=
  String.ofList (lowercaseChars s.toList)

@[simp] theorem toList_lowercase (s : String) : (lowercase s).toList = lowercaseChars s.toList := by
  simp [lowercase]

end OperatorDaemon.Unicode
