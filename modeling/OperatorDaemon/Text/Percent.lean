import OperatorDaemon.Text.Ascii
import OperatorDaemon.Text.Utf8

/-!
# Percent encoding

A byte may be written as a percent sign and two hexadecimal digits. Which characters have to be depends
on the place where they stand; characters beyond ASCII always are.
-/

namespace OperatorDaemon.Percent

/-- A byte behind a percent sign. -/
def encodeByte (b : UInt8) : List Char :=
  ['%', hexDigitUpper (b.toNat / 16), hexDigitUpper (b.toNat % 16)]

/-- A character, in the bytes of its UTF-8 form if it has to be escaped. -/
def encodeChar (escaped : Char → Bool) (c : Char) : List Char :=
  if c.toNat < 0x80 && !escaped c then [c] else (Utf8.encodeChar c).flatMap encodeByte

/-- Characters with the ones escaped that have to be. -/
def encode (escaped : Char → Bool) (cs : List Char) : List Char :=
  cs.flatMap (encodeChar escaped)

/-- The value of a byte that is a hexadecimal digit. -/
def digit? (b : UInt8) : Option Nat :=
  hexValue? (Char.ofNat b.toNat)

/-- Bytes with the escapes undone. A percent sign without two digits stands for itself. -/
def decode : List UInt8 → List UInt8
  | 0x25 :: high :: low :: rest =>
    match digit? high, digit? low with
    | some h, some l => UInt8.ofNat (h * 16 + l) :: decode rest
    | _, _ => 0x25 :: decode (high :: low :: rest)
  | b :: rest => b :: decode rest
  | [] => []

/-! ### Where what is escaped -/

/-- Control characters. -/
def isControl (c : Char) : Bool := c.toNat < 0x20 || c.toNat = 0x7F

/-- What is escaped in a fragment. -/
def inFragment (c : Char) : Bool :=
  isControl c || c = ' ' || c = '"' || c = '<' || c = '>' || c.toNat = 0x60

/-- What is escaped in a query. -/
def inQuery (c : Char) : Bool :=
  isControl c || c = ' ' || c = '"' || c = '#' || c = '<' || c = '>'

/-- What is escaped in the query of a well-known scheme. -/
def inSpecialQuery (c : Char) : Bool := inQuery c || c = '\''

/-- What is escaped in a path. -/
def inPath (c : Char) : Bool :=
  inFragment c || c = '#' || c = '?' || c = '\x7b' || c = '\x7d'

/-- What is escaped in a user name or a password. -/
def inUserInfo (c : Char) : Bool :=
  inPath c || c = '/' || c = ':' || c = ';' || c = '=' || c = '@' || c = '[' || c = '\\' ||
    c = ']' || c = '^' || c = '|'

/-- What is escaped in a path segment. -/
def inSegment (c : Char) : Bool := inPath c || c = '/' || c = '%'

/-- What is escaped in a path segment of a well-known scheme. -/
def inSpecialSegment (c : Char) : Bool := inSegment c || c = '\\'

end OperatorDaemon.Percent
