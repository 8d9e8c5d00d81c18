import OperatorDaemon.Text.Ascii

/-!
# JSON values and their text

The values that the daemon writes. Numbers are natural, members keep their order, and the text has no
blanks between its parts.
-/

namespace OperatorDaemon.Json

/-- A JSON value. -/
inductive Value where
  /-- The null value. -/
  | null
  /-- A truth value. -/
  | bool (b : Bool)
  /-- A natural number. -/
  | number (n : Nat)
  /-- A text. -/
  | string (s : String)
  /-- A list of values. -/
  | array (items : List Value)
  /-- Values under names. -/
  | object (members : List (String × Value))

/-- The names of the members of an object. -/
def Value.names : Value → List String
  | .object members => members.map (·.1)
  | .null | .bool _ | .number _ | .string _ | .array _ => []

/-! ### Writing -/

/-- A character inside a JSON string. -/
def escape (c : Char) : List Char :=
  if c = '"' then ['\\', '"']
  else if c = '\\' then ['\\', '\\']
  else if c = '\x08' then ['\\', 'b']
  else if c = '\t' then ['\\', 't']
  else if c = '\n' then ['\\', 'n']
  else if c = '\x0c' then ['\\', 'f']
  else if c = '\r' then ['\\', 'r']
  else if c.toNat < 0x20 then
    ['\\', 'u', '0', '0', hexDigit (c.toNat / 16), hexDigit (c.toNat % 16)]
  else [c]

/-- A text as a JSON string. -/
def writeString (s : String) : List Char :=
  '"' :: s.toList.flatMap escape ++ ['"']

mutual

/-- The text of a value. -/
def Value.write : Value → List Char
  | .null => ['n', 'u', 'l', 'l']
  | .bool true => ['t', 'r', 'u', 'e']
  | .bool false => ['f', 'a', 'l', 's', 'e']
  | .number n => Nat.toDigits 10 n
  | .string s => writeString s
  | .array [] => ['[', ']']
  | .array (v :: vs) => '[' :: v.write ++ writeItems vs
  | .object [] => ['\x7b', '\x7d']
  | .object ((name, v) :: ms) => '\x7b' :: writeString name ++ ':' :: v.write ++ writeMembers ms

/-- The text of the further items of an array and its end. -/
def writeItems : List Value → List Char
  | [] => [']']
  | v :: vs => ',' :: v.write ++ writeItems vs

/-- The text of the further members of an object and its end. -/
def writeMembers : List (String × Value) → List Char
  | [] => ['\x7d']
  | (name, v) :: ms => ',' :: writeString name ++ ':' :: v.write ++ writeMembers ms

end

/-- The text of a value as a `String`. -/
def Value.text (v : Value) : String :=
  String.ofList v.write

end OperatorDaemon.Json
