import OperatorDaemon.Text.Ascii
import OperatorDaemon.Unicode.Packed
import OperatorDaemon.Unicode.PrintableData

/-!
# Quoted text

A text or a character shown between quotes, with escapes for the quote, for the backslash, for line
breaks and tabs, and for every character that would not be seen.
-/

namespace OperatorDaemon.Quoted

/-- The ranges of characters without a glyph. -/
def unprintableRanges : List Nat := Unicode.unpack Unicode.unprintableRows

/-- The ranges of characters that extend the one before. -/
def extendRanges : List Nat := Unicode.unpack Unicode.graphemeExtendRows

/-- Whether a character is shown by its number. -/
def isHidden (c : Char) : Bool :=
  Unicode.inRanges c.toNat unprintableRanges || Unicode.inRanges c.toNat extendRanges

/-- The hexadecimal digits of a number, with none in front that is zero. -/
def digits : Nat → Nat → List Char
  | 0, _ => []
  | places + 1, n => if n < 16 then [hexDigit n] else digits places (n / 16) ++ [hexDigit (n % 16)]

/-- A character inside quotes of the given kind. -/
def escape (quote c : Char) : List Char :=
  if c = '\x00' then ['\\', '0']
  else if c = '\t' then ['\\', 't']
  else if c = '\r' then ['\\', 'r']
  else if c = '\n' then ['\\', 'n']
  else if c = '\\' then ['\\', '\\']
  else if c = quote then ['\\', quote]
  else if isHidden c then ['\\', 'u', '\x7b'] ++ digits 6 c.toNat ++ ['\x7d']
  else [c]

/-- A text between double quotes. -/
def text (s : String) : String :=
  String.ofList ('"' :: s.toList.flatMap (escape '"') ++ ['"'])

/-- A character between single quotes. -/
def char (c : Char) : String :=
  String.ofList ('\'' :: escape '\'' c ++ ['\''])

end OperatorDaemon.Quoted
