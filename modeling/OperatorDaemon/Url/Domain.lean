import OperatorDaemon.Url.Label
import OperatorDaemon.Url.Punycode

/-!
# Domain names

The characters of a domain name are folded and normalized, and labels with characters beyond ASCII are
written in Punycode behind `xn--`. A label that is written so already has to be the written form of what it
stands for. Libraries refuse labels of more than a thousand characters; here they may have any length.
-/

namespace OperatorDaemon.Domain

/-- The ASCII characters that no domain name has. -/
def isForbidden (c : Char) : Bool :=
  c.toNat ≤ 0x20 || c.toNat = 0x7F || "%#/:<>?@[\\]^|".toList.contains c

/-- The common form of a character. One that no name has is replaced, so that no label with it is in its common
form. -/
def mapChar (c : Char) : List Char :=
  if c.toNat < 0x80 then [asciiLower c]
  else if isIgnored c then []
  else if isDot c then ['.']
  else if isDisallowed c then ['\uFFFD']
  else if c = '\u1E9E' then ['\u00DF']
  else if c = '\u03C2' then [c]
  else (Unicode.decompose c).flatMap foldChar

/-- The common form of a name. -/
def mapChars (cs : List Char) : List Char :=
  Unicode.nfkcChars (cs.flatMap mapChar)

/-- Split characters at the dots. -/
def labels : List Char → List (List Char)
  | [] => [[]]
  | c :: rest =>
    if c = '.' then [] :: labels rest
    else match labels rest with
      | [] => [[c]]
      | label :: more => (c :: label) :: more

/-- The mark in front of a label in Punycode. -/
def mark : List Char := "xn--".toList

/-- Whether a label with characters beyond ASCII is in its common form: all characters may stand in a label, the
first is no mark, and joiners are in place. -/
def isWellFormed (label : List Char) : Bool :=
  mapChars label = label && !(label.any (· = '\uFFFD')) && !(label.head?.any isMark) &&
    areJoinersInPlace [] label

/-- A label in ASCII. -/
def asciiLabel? (label : List Char) : Option (List Char) :=
  if mark.isPrefixOf label then
    match Punycode.decode? (label.drop mark.length) with
    | none => none
    | some decoded =>
      if decoded.any (128 ≤ ·.toNat) && isWellFormed decoded &&
        label = mark ++ Punycode.encode decoded then some label else none
  else if label.all (·.toNat < 128) then some label
  else if isWellFormed label then some (mark ++ Punycode.encode label)
  else none

/-- What a label in ASCII stands for. -/
def plainLabel (label : List Char) : List Char :=
  if mark.isPrefixOf label then (Punycode.decode? (label.drop mark.length)).getD label else label

/-- The ASCII form of a domain name, if it is one. -/
def ascii? (cs : List Char) : Option (List Char) := do
  let labels ← (labels (mapChars cs)).mapM asciiLabel?
  let name := List.intercalate ['.'] labels
  if name.any isForbidden || !areDirected (labels.map plainLabel) then none else return name

end OperatorDaemon.Domain
