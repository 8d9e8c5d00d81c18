import OperatorDaemon.Text.Base64
import OperatorDaemon.Text.Lines
import OperatorDaemon.Text.Utf8

/-!
# PEM blocks

Bytes in Base64 between a line that begins a block and one that ends it. The first block of a text is
read; what stands around it does not matter. Headers may stand in front of the data, set off from it by
an empty line.
-/

namespace OperatorDaemon.Pem

/-- Why a text holds no block. -/
inductive Fault where
  /-- No block begins and ends. -/
  | framing
  /-- The beginning has no label. -/
  | noBeginLabel
  /-- The end has no label. -/
  | noEndLabel
  /-- The labels differ. -/
  | labels (begins ends : String)
  /-- The data is not Base64. -/
  | data (fault : Base64.Fault)
  /-- A header has no colon. -/
  | header (line : String)
  deriving DecidableEq, Repr

/-- The wording of a fault. -/
def Fault.message : Fault → String
  | .framing => "malformedframing"
  | .noBeginLabel => "missing BEGIN tag"
  | .noEndLabel => "missing END tag"
  | .labels begins ends =>
    "mismatching BEGIN (\"" ++ begins ++ "\") and END (\"" ++ ends ++ "\") tags"
  | .data fault => "invalid data: " ++ fault.message
  | .header line => "invalid header: " ++ line

/-- What stands in front of a mark and behind it. `found` are the characters of the mark that have been
found, `left` those that have not; `before` are the characters read so far, the last of them first. A
character that breaks off a partial find is not tried again as the beginning of another. -/
def splitFrom (mark left before : List Char) : List Char → Option (List Char × List Char)
  | [] => none
  | c :: rest =>
    match left with
    | [] => none
    | m :: left =>
      let before := c :: before
      if c = m then
        if left.isEmpty then some ((before.drop mark.length).reverse, rest)
        else splitFrom mark left before rest
      else splitFrom mark mark before rest

/-- What stands in front of a mark and behind it. -/
def split? (mark cs : List Char) : Option (List Char × List Char) :=
  splitFrom mark mark [] cs

/-- The blanks between the parts of a block. -/
def dropSpace (cs : List Char) : List Char :=
  cs.dropWhile fun c => c = ' ' ∨ c = '\n' ∨ c = '\r' ∨ c = '\t'

/-- The label of the beginning, what stands in the block, and the label of the end. -/
def frame? (cs : List Char) : Option (List Char × List Char × List Char) := do
  let (_, cs) ← split? "-----BEGIN ".toList cs
  let (begins, cs) ← split? "-----".toList cs
  let (body, cs) ← split? "-----END ".toList (dropSpace cs)
  let (ends, _) ← split? "-----".toList cs
  return (begins, body, ends)

/-- The headers of a block and its data. -/
def headersAndData (body : List Char) : List Char × List Char :=
  (split? "\n\n".toList body <|> split? "\r\n\r\n".toList body).getD ([], body)

/-- The first line that is no header. -/
def badHeader (headers : List Char) : Option (List Char) :=
  ((lines headers).map dropBlankEnd).find? fun line => !line.isEmpty && !line.contains ':'

/-- The bytes in the first block of a text. -/
def decode (text : String) : Except Fault (List UInt8) :=
  match frame? text.toList with
  | none => .error .framing
  | some (begins, body, ends) =>
    if begins.isEmpty then .error .noBeginLabel
    else if ends.isEmpty then .error .noEndLabel
    else if begins ≠ ends then .error (.labels (String.ofList begins) (String.ofList ends))
    else
      let (headers, data) := headersAndData body
      match Base64.decode (Utf8.encode ((lines data).flatMap dropBlankEnd)) with
      | .error fault => .error (.data fault)
      | .ok bytes =>
        match badHeader headers with
        | some line => .error (.header (String.ofList line))
        | none => .ok bytes

end OperatorDaemon.Pem
