import OperatorDaemon.Text.Percent
import OperatorDaemon.Url.Basic

/-!
# Paths of URLs

A path is built segment by segment. A segment of one dot is dropped and one of two dots drops the segment
in front of it; at the end of a path either leaves an empty segment. A segment that looks like the letter
of a drive is never dropped.
-/

namespace OperatorDaemon.Url

/-- The spellings of a segment of one dot. -/
def isSingleDot (segment : List Char) : Bool :=
  segment.map asciiLower ∈ [['.'], ['%', '2', 'e']]

/-- The spellings of a segment of two dots. -/
def isDoubleDot (segment : List Char) : Bool :=
  segment.map asciiLower ∈
    [['.', '.'], ['.', '%', '2', 'e'], ['%', '2', 'e', '.'], ['%', '2', 'e', '%', '2', 'e']]

/-- Whether a segment is a letter and a colon or a bar. -/
def isDriveLetter : List Char → Bool
  | [letter, mark] => isAsciiLetter letter && (mark = ':' || mark = '|')
  | _ => false

/-- Drop the last segment of those taken in so far, which stand in reverse. -/
def dropSegment : List (List Char) → List (List Char)
  | [] => []
  | last :: before => if isDriveLetter last then last :: before else before

/-- Take in a segment behind the others, which stand in reverse. `isLast` says that nothing follows. In
the URL of a file the letter of a drive gets a colon; text that follows a drive letter at the beginning of
the path is a segment of its own. -/
def takeSegment (kind : SchemeKind) (before : List (List Char)) (segment : List Char)
    (isLast : Bool) : List (List Char) :=
  let last (segments : List (List Char)) : List (List Char) :=
    if isLast then [] :: segments else segments
  if isDoubleDot segment then last (dropSegment before)
  else if isSingleDot segment then last before
  else if kind = .file then
    match before, segment with
    | _, [letter, mark] =>
      (if isDriveLetter [letter, mark] then [letter, ':'] else [letter, mark]) :: before
    | [], letter :: ':' :: rest =>
      if isAsciiLetter letter then [rest, [letter, ':']] else [segment]
    | before, segment => segment :: before
  else segment :: before

/-- Take in segments, the last of which ends the path. -/
def takeSegments (kind : SchemeKind) (before : List (List Char)) :
    List (List Char) → List (List Char)
  | [] => before
  | segment :: rest =>
    takeSegments kind (takeSegment kind before segment rest.isEmpty) rest

/-- Drop the empty segments in front of the others. -/
def dropEmpty : List (List Char) → List (List Char)
  | [] :: segment :: rest => dropEmpty (segment :: rest)
  | segments => segments

/-- The segments in their order. Those of a file do not begin with an empty one. -/
def ordered (kind : SchemeKind) (segments : List (List Char)) : List String :=
  let segments := segments.reverse
  (if kind = .file then dropEmpty segments else segments).map String.ofList

/-! ### Reading -/

/-- Split characters where a mark stands. -/
def splitAt (isMark : Char → Bool) : List Char → List (List Char)
  | [] => [[]]
  | c :: rest =>
    if isMark c then [] :: splitAt isMark rest
    else match splitAt isMark rest with
      | [] => [[c]]
      | part :: parts => (c :: part) :: parts

/-- Whether a character ends a segment. -/
def endsSegment (kind : SchemeKind) (c : Char) : Bool :=
  c = '/' || (kind.isSpecial && c = '\\')

/-- The encoded segments of a text, without its first slash. -/
def segmentsOf (kind : SchemeKind) (cs : List Char) : List (List Char) :=
  (splitAt (endsSegment kind) cs).map (Percent.encode Percent.inPath)

/-- The path that a text stands for, without its first slash. -/
def readPath (kind : SchemeKind) (cs : List Char) : List String :=
  ordered kind (takeSegments kind [] (segmentsOf kind cs))

/-! ### Adding segments -/

/-- A text as a segment. Tabs and line breaks are dropped. -/
def encodeSegment (kind : SchemeKind) (text : String) : List Char :=
  Percent.encode (if kind.isSpecial then Percent.inSpecialSegment else Percent.inSegment)
    (text.toList.filter fun c => c != '\t' && c != '\n' && c != '\r')

/-- Put a text behind the segments of a path. One of one or two dots is left out. -/
def pushSegment (kind : SchemeKind) (segments : List String) (text : String) : List String :=
  if text = "." ∨ text = ".." then segments
  else
    let before := if segments = [""] then [] else segments.reverse.map String.toList
    ordered kind (takeSegment kind before (encodeSegment kind text) true)

/-- The segments of a path without an empty one at its end, unless it is the only one. -/
def dropEmptyEnd (segments : List String) : List String :=
  if segments.length > 1 ∧ segments.getLast? = some "" then segments.dropLast else segments

/-- The URL with further segments behind those of its path. -/
def extend (u : Url) (texts : List String) : Url :=
  match u.path with
  | .unstructured _ => u
  | .segments segments =>
    { u with path := .segments (texts.foldl (pushSegment u.kind) (dropEmptyEnd segments)) }

end OperatorDaemon.Url
