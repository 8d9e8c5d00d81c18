/-!
# What a text says as JSON

The syntax tree of a text. A text that leaves JSON has a tree as well: it ends where the text goes
wrong and says how. So a reader that knows what it wants can go through the tree in the order of the
text and report the first thing it does not like, be it a wrong type or a flaw.
-/

namespace OperatorDaemon.Json

/-! ### Faults -/

/-- What is reported about a text that leaves JSON. -/
inductive Fault where
  /-- The text ends inside a list. -/
  | eofList
  /-- The text ends inside an object. -/
  | eofObject
  /-- The text ends inside a string. -/
  | eofString
  /-- The text ends where a value should be, or inside one. -/
  | eofValue
  /-- A name is not followed by a colon. -/
  | expectedColon
  /-- An item is followed neither by a comma nor by the end of the list. -/
  | expectedListEnd
  /-- A member is followed neither by a comma nor by the end of the object. -/
  | expectedObjectEnd
  /-- A word is none of the three literals. -/
  | expectedIdent
  /-- No value begins like this. -/
  | expectedValue
  /-- There is no such escape. -/
  | invalidEscape
  /-- A number is not well formed. -/
  | invalidNumber
  /-- A number is beyond all floating-point numbers. -/
  | numberOutOfRange
  /-- A string is no Unicode text. -/
  | invalidUnicode
  /-- A control character stands in a string. -/
  | controlCharacter
  /-- A name is no string. -/
  | keyNotString
  /-- One half of a surrogate pair is missing. -/
  | loneSurrogate
  /-- A comma is followed by the end. -/
  | trailingComma
  /-- Something follows the end. -/
  | trailingCharacters
  /-- The first half of a surrogate pair is followed by no escape. -/
  | unexpectedHexEnd
  deriving DecidableEq, Repr

/-- The wording of a fault. -/
def Fault.message : Fault → String
  | .eofList => "EOF while parsing a list"
  | .eofObject => "EOF while parsing an object"
  | .eofString => "EOF while parsing a string"
  | .eofValue => "EOF while parsing a value"
  | .expectedColon => "expected `:`"
  | .expectedListEnd => "expected `,` or `]`"
  | .expectedObjectEnd => "expected `,` or `\x7d`"
  | .expectedIdent => "expected ident"
  | .expectedValue => "expected value"
  | .invalidEscape => "invalid escape"
  | .invalidNumber => "invalid number"
  | .numberOutOfRange => "number out of range"
  | .invalidUnicode => "invalid unicode code point"
  | .controlCharacter => "control character (\\u0000-\\u001F) found while parsing a string"
  | .keyNotString => "key must be a string"
  | .loneSurrogate => "lone leading surrogate in hex escape"
  | .trailingComma => "trailing comma"
  | .trailingCharacters => "trailing characters"
  | .unexpectedHexEnd => "unexpected end of hex escape"

/-! ### Trees -/

/-- The way a number is written. -/
structure Number where
  /-- A minus sign stands in front. -/
  negative : Bool
  /-- The digits in front of the point. -/
  whole : List Nat
  /-- The digits behind the point. -/
  fraction : List Nat
  /-- The digits of the exponent and whether it is negative. -/
  exponent : Option (Bool × List Nat)

/-- How a list or an object ends. -/
inductive Ending where
  /-- With its bracket. -/
  | closed
  /-- The text ends instead of a comma or the bracket. -/
  | cut
  /-- Something else stands instead of a comma or the bracket. -/
  | noSeparator
  /-- The bracket follows a comma. -/
  | commaClosed
  /-- The text ends behind a comma. -/
  | commaCut
  deriving DecidableEq, Repr

/-- A syntax tree. -/
inductive Tree where
  /-- The literal `null`. -/
  | null
  /-- One of the literals `true` and `false`. -/
  | bool (b : Bool)
  /-- A number. -/
  | number (n : Number)
  /-- A string, with its text or what is wrong with it. -/
  | string (text : Except Fault String)
  /-- A list. -/
  | array (items : List Tree) (ending : Ending)
  /-- An object. A name that is no string is followed by what stands in its place. -/
  | object (members : List (Except Fault String × Tree)) (ending : Ending)
  /-- The text ends where a value should begin. -/
  | missing
  /-- The text goes wrong. The first fault is reported where the value is read, the second where it is
  passed over. -/
  | flawed (read skipped : Fault)

/-! ### Passing over -/

mutual

/-- Pass over a value, whatever it is. Strings need not be Unicode text. -/
def Tree.skip : Tree → Except Fault Unit
  | .null | .bool _ | .number _ | .string _ => .ok ()
  | .missing => .error .eofValue
  | .flawed _ skipped => .error skipped
  | .array items ending =>
    match skipItems items with
    | .error fault => .error fault
    | .ok () =>
      match ending with
      | .closed => .ok ()
      | .cut => .error .eofList
      | .noSeparator => .error .expectedListEnd
      | .commaClosed => .error .expectedValue
      | .commaCut => .error .eofValue
  | .object members ending =>
    match skipMembers members with
    | .error fault => .error fault
    | .ok () =>
      match ending with
      | .closed => .ok ()
      | .cut | .commaCut => .error .eofObject
      | .noSeparator => .error .expectedObjectEnd
      | .commaClosed => .error .keyNotString

/-- Pass over the items of a list. -/
def skipItems : List Tree → Except Fault Unit
  | [] => .ok ()
  | t :: rest =>
    match t.skip with
    | .error fault => .error fault
    | .ok () => skipItems rest

/-- Pass over the members of an object. -/
def skipMembers : List (Except Fault String × Tree) → Except Fault Unit
  | [] => .ok ()
  | (name, t) :: rest =>
    if let .error .keyNotString := name then .error .keyNotString
    else match t.skip with
      | .error fault => .error fault
      | .ok () => skipMembers rest

end

end OperatorDaemon.Json
