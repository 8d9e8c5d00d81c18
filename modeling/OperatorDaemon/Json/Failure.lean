import OperatorDaemon.Json.Number
import OperatorDaemon.Text.Quoted

/-!
# Why a text is not what was asked for

A failure is a cause and the path from the outermost value to the place where it arose.
-/

namespace OperatorDaemon.Json

/-- A step from a value to a part of it. -/
inductive Step where
  /-- To the item with this index. -/
  | item (index : Nat)
  /-- To the member with this name. -/
  | member (name : String)
  /-- To a member whose name could not be read. -/
  | unnamed
  deriving DecidableEq, Repr

/-- The cause of a failure. -/
inductive Cause where
  /-- The text leaves JSON. -/
  | fault (f : Fault)
  /-- A value is of another kind. -/
  | wrongType (found expected : String)
  /-- A value is of the right kind and yet not allowed. -/
  | wrongValue (found expected : String)
  /-- A list ends too early or too late. -/
  | wrongLength (count : Nat) (expected : String)
  /-- A member is not there. -/
  | missingField (name : String)
  /-- A member is there twice. -/
  | duplicateField (name : String)
  /-- A text is none of the names of an enumeration. -/
  | unknownVariant (name : String) (known : List String)
  /-- A text does not have the form that it should have. -/
  | wrongText (message : String)
  deriving DecidableEq, Repr

/-- A text between backquotes. -/
def backquoted (s : String) : String := "`" ++ s ++ "`"

/-- The wording of a cause. -/
def Cause.message : Cause → String
  | .fault f => f.message
  | .wrongType found expected => "invalid type: " ++ found ++ ", expected " ++ expected
  | .wrongValue found expected => "invalid value: " ++ found ++ ", expected " ++ expected
  | .wrongLength count expected => s!"invalid length {count}, expected " ++ expected
  | .missingField name => "missing field " ++ backquoted name
  | .duplicateField name => "duplicate field " ++ backquoted name
  | .unknownVariant name known =>
    "unknown variant " ++ backquoted name ++ ", expected one of " ++
      ", ".intercalate (known.map backquoted)
  | .wrongText message => message

/-- Whether the text is JSON, though not of the wanted kind. -/
def Cause.isData : Cause → Bool
  | .fault _ => false
  | _ => true

/-- A cause and the path to it. -/
structure Failure where
  /-- The steps from the outermost value on. -/
  path : List Step
  /-- The cause. -/
  cause : Cause
  deriving DecidableEq, Repr

namespace Failure

/-- A failure at the value itself. -/
def here (cause : Cause) : Failure := ⟨[], cause⟩

/-- A failure where the text leaves JSON. -/
def fault (f : Fault) : Failure := here (.fault f)

/-- The failure of a part, as one of the whole. -/
def under (step : Step) (f : Failure) : Failure := ⟨step :: f.path, f.cause⟩

/-- The text of further steps: a dot stands in front of a name unless it comes first. -/
def pathText : List Step → Bool → String
  | [], _ => ""
  | .item index :: rest, _ => s!"[{index}]" ++ pathText rest false
  | .member name :: rest, first => (if first then "" else ".") ++ name ++ pathText rest false
  | .unnamed :: rest, first => (if first then "" else ".") ++ "?" ++ pathText rest false

/-- The wording with the path in front, unless no step of the path says anything. -/
def message (f : Failure) : String :=
  if f.path.all (· == .unnamed) then f.cause.message
  else pathText f.path true ++ ": " ++ f.cause.message

end Failure

/-- What a value is called in a report, unless the text is wrong before that can be told. -/
def Tree.described : Tree → Except Fault String
  | .null => .ok "null"
  | .bool b => .ok ("boolean " ++ backquoted (toString b))
  | .number n => n.value.map NumberValue.described
  | .string text => text.map fun s => "string " ++ Quoted.text s
  | .array .. => .ok "sequence"
  | .object .. => .ok "map"
  | .missing => .error .eofValue
  | .flawed read _ => .error read

/-- The failure of a value that is not of the expected kind. -/
def Tree.rejected (t : Tree) (expected : String) : Failure :=
  match t.described with
  | .ok found => .here (.wrongType found expected)
  | .error fault => .fault fault

/-- What is wrong with the end of a list whose items have been read. -/
def Ending.listFault : Ending → Option Fault
  | .closed => none
  | .cut => some .eofList
  | .noSeparator => some .expectedListEnd
  | .commaClosed => some .trailingComma
  | .commaCut => some .eofValue

/-- What is wrong with the end of an object whose members have been read. -/
def Ending.objectFault : Ending → Option Fault
  | .closed => none
  | .cut => some .eofObject
  | .noSeparator => some .expectedObjectEnd
  | .commaClosed => some .trailingComma
  | .commaCut => some .eofValue

/-- What is wrong with a list behind the last item that is wanted. -/
def restFault : List Tree → Ending → Option Fault
  | [], .closed => none
  | [], .cut => some .eofList
  | [], .commaClosed => some .trailingComma
  | _, _ => some .trailingCharacters

end OperatorDaemon.Json
