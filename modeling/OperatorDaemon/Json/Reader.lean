import OperatorDaemon.Json.Tree
import OperatorDaemon.Text.Ascii

/-!
# Reading JSON

From the characters of a text to its syntax tree. A byte that belongs to no character stands as `none`;
it may only stand in a string, whose text is then at fault.
-/

namespace OperatorDaemon.Json

/-- The characters of a text. -/
abbrev Symbols := List (Option Char)

/-- What a step of reading finds, and what comes after it. Nothing does where the text goes wrong. -/
structure Reading (α : Type) where
  /-- What is found. -/
  found : α
  /-- What comes after it. -/
  rest : Option Symbols

/-- The blank characters between the parts of a text. -/
def isSpace (c : Option Char) : Bool :=
  c == some ' ' || c == some '\n' || c == some '\t' || c == some '\r'

/-- What comes after the blanks. -/
def dropSpace (s : Symbols) : Symbols :=
  s.dropWhile isSpace

/-! ### Strings -/

/-- What reading a string finds. -/
inductive StringReading where
  /-- The closing quote, behind a text or what is wrong with it. -/
  | closed (text : Except Fault (List Char)) (rest : Symbols)
  /-- No string at all. -/
  | broken (read skipped : Fault)

/-- Put a character in front. -/
def StringReading.push (c : Char) : StringReading → StringReading
  | .closed text rest => .closed (text.map (c :: ·)) rest
  | .broken read skipped => .broken read skipped

/-- A fault in front of the rest of the string, which is found when the string is read. -/
def StringReading.spoil (fault : Fault) : StringReading → StringReading
  | .closed _ rest => .closed (.error fault) rest
  | .broken _ skipped => .broken fault skipped

/-- A byte that belongs to no character, which is found when the string has been read to its end. -/
def StringReading.stain : StringReading → StringReading
  | .closed (.ok _) rest => .closed (.error .invalidUnicode) rest
  | reading => reading

/-- The number of four hexadecimal digits. -/
def hexNumber (a b c d : Option Char) : Option Nat := do
  let a ← hexValue? (← a)
  let b ← hexValue? (← b)
  let c ← hexValue? (← c)
  let d ← hexValue? (← d)
  return ((a * 16 + b) * 16 + c) * 16 + d

/-- The character behind a backslash, in an escape of two characters. -/
def simpleEscape : Option Char → Option Char
  | some '"' => some '"'
  | some '\\' => some '\\'
  | some '/' => some '/'
  | some 'b' => some '\x08'
  | some 'f' => some '\x0c'
  | some 'n' => some '\n'
  | some 'r' => some '\r'
  | some 't' => some '\t'
  | _ => none

/-- How many bytes a symbol takes. -/
def symbolSize : Option Char → Nat
  | none => 1
  | some c => c.utf8Size

/-- What is wrong with an escape of fewer than four characters at the end of the text: four bytes
would have been read and found to be no digits. -/
def shortEscape (s : Symbols) : StringReading :=
  if 4 ≤ s.foldl (fun size symbol => size + symbolSize symbol) 0 then .broken .invalidEscape .invalidEscape
  else .broken .eofString .eofString

/-- The characters behind an opening quote. -/
def readStringBody : Symbols → StringReading
  | [] | [some '\\'] => .broken .eofString .eofString
  | some '"' :: rest => .closed (.ok []) rest
  | some '\\' :: some 'u' :: a :: b :: c :: d :: rest =>
    match hexNumber a b c d with
    | none => .broken .invalidEscape .invalidEscape
    | some n =>
      if n < 0xD800 ∨ 0xDFFF < n then (readStringBody rest).push (Char.ofNat n)
      else if 0xDC00 ≤ n then (readStringBody rest).spoil .loneSurrogate
      else match rest with
        | some '\\' :: some 'u' :: e :: f :: g :: h :: rest =>
          match hexNumber e f g h with
          | none => .broken .invalidEscape .invalidEscape
          | some m =>
            if 0xDC00 ≤ m ∧ m ≤ 0xDFFF then
              (readStringBody rest).push
                (Char.ofNat (0x10000 + (n - 0xD800) * 0x400 + (m - 0xDC00)))
            else (readStringBody rest).spoil .loneSurrogate
        | some '\\' :: some 'u' :: short => shortEscape short
        | [] | [some '\\'] => .broken .eofString .eofString
        | rest => (readStringBody rest).spoil .unexpectedHexEnd
  | some '\\' :: some 'u' :: short => shortEscape short
  | some '\\' :: c :: rest =>
    match simpleEscape c with
    | some c => (readStringBody rest).push c
    | none => .broken .invalidEscape .invalidEscape
  | some c :: rest =>
    if c.toNat < 0x20 then .broken .controlCharacter .controlCharacter
    else (readStringBody rest).push c
  | none :: rest => (readStringBody rest).stain

/-! ### Numbers and literals -/

/-- Whether a symbol is a decimal digit. -/
def isDigitSymbol : Option Char → Bool
  | some c => isAsciiDigit c
  | none => false

/-- The value of a digit. -/
def digitValue : Option Char → Nat
  | some c => c.toNat - 48
  | none => 0

/-- The digits at the start, and what comes after them. -/
def takeDigits (s : Symbols) : List Nat × Symbols :=
  ((s.takeWhile isDigitSymbol).map digitValue, s.dropWhile isDigitSymbol)

/-- What is wrong with a number that lacks a digit here: a text that ends is a value cut short where the
number is read, and a number that is not well formed where it is passed over. -/
def missingDigit : Symbols → Reading Tree
  | [] => ⟨.flawed .eofValue .invalidNumber, none⟩
  | _ => ⟨.flawed .invalidNumber .invalidNumber, none⟩

/-- The exponent of a number, if there is one. -/
def readExponent (negative : Bool) (whole fraction : List Nat) (s : Symbols) : Reading Tree :=
  let withSign (below : Bool) (s : Symbols) : Reading Tree :=
    match takeDigits s with
    | ([], _) => missingDigit s
    | (digits, rest) => ⟨.number ⟨negative, whole, fraction, some (below, digits)⟩, some rest⟩
  let marked (s : Symbols) : Reading Tree :=
    match s with
    | some '+' :: rest => withSign false rest
    | some '-' :: rest => withSign true rest
    | _ => withSign false s
  match s with
  | some 'e' :: rest => marked rest
  | some 'E' :: rest => marked rest
  | _ => ⟨.number ⟨negative, whole, fraction, none⟩, some s⟩

/-- The fraction of a number, if there is one, and its exponent. -/
def readFraction (negative : Bool) (whole : List Nat) (s : Symbols) : Reading Tree :=
  match s with
  | some '.' :: rest =>
    match takeDigits rest with
    | ([], _) => missingDigit rest
    | (digits, rest) => readExponent negative whole digits rest
  | _ => readExponent negative whole [] s

/-- A number without its sign. No digit follows a zero in front. -/
def readNumber (negative : Bool) (s : Symbols) : Reading Tree :=
  match takeDigits s with
  | ([], _) => missingDigit s
  | (0 :: _ :: _, _) => ⟨.flawed .invalidNumber .invalidNumber, none⟩
  | (digits, rest) => readFraction negative digits rest

/-- The rest of a literal. -/
def readLiteral (t : Tree) : List Char → Symbols → Reading Tree
  | [], s => ⟨t, some s⟩
  | _ :: _, [] => ⟨.flawed .eofValue .eofValue, none⟩
  | c :: cs, d :: rest =>
    if d = some c then readLiteral t cs rest
    else ⟨.flawed .expectedIdent .expectedIdent, none⟩

/-! ### Values -/

mutual

/-- A value. Each call has less fuel than the one that makes it. -/
def readValue : Nat → Symbols → Reading Tree
  | 0, _ => ⟨.flawed .expectedValue .expectedValue, none⟩
  | fuel + 1, s =>
    match dropSpace s with
    | [] => ⟨.missing, none⟩
    | some '"' :: rest =>
      match readStringBody rest with
      | .closed text rest => ⟨.string (text.map String.ofList), some rest⟩
      | .broken read skipped => ⟨.flawed read skipped, none⟩
    | some '[' :: rest =>
      let ⟨(items, ending), rest⟩ := readItems fuel true rest
      ⟨.array items ending, rest⟩
    | some '\x7b' :: rest =>
      let ⟨(members, ending), rest⟩ := readMembers fuel true rest
      ⟨.object members ending, rest⟩
    | some 'n' :: rest => readLiteral .null ['u', 'l', 'l'] rest
    | some 't' :: rest => readLiteral (.bool true) ['r', 'u', 'e'] rest
    | some 'f' :: rest => readLiteral (.bool false) ['a', 'l', 's', 'e'] rest
    | some '-' :: rest => readNumber true rest
    | c :: rest =>
      if isDigitSymbol c then readNumber false (c :: rest)
      else ⟨.flawed .expectedValue .expectedValue, none⟩

/-- The items of a list from the start or from behind an item on, and how the list ends. -/
def readItems : Nat → Bool → Symbols → Reading (List Tree × Ending)
  | 0, _, _ => ⟨([], .cut), none⟩
  | fuel + 1, first, s =>
    let item (s : Symbols) : Reading (List Tree × Ending) :=
      let ⟨t, rest⟩ := readValue fuel s
      match rest with
      | none => ⟨([t], .cut), none⟩
      | some rest =>
        let ⟨(items, ending), rest⟩ := readItems fuel false rest
        ⟨(t :: items, ending), rest⟩
    match dropSpace s with
    | [] => ⟨([], .cut), none⟩
    | some ']' :: rest => ⟨([], .closed), some rest⟩
    | c :: rest =>
      if first then item (c :: rest)
      else if c = some ',' then
        match dropSpace rest with
        | [] => ⟨([], .commaCut), none⟩
        | some ']' :: _ => ⟨([], .commaClosed), none⟩
        | rest => item rest
      else ⟨([], .noSeparator), none⟩

/-- The members of an object from the start or from behind a member on, and how the object ends. -/
def readMembers : Nat → Bool → Symbols → Reading (List (Except Fault String × Tree) × Ending)
  | 0, _, _ => ⟨([], .cut), none⟩
  | fuel + 1, first, s =>
    let value (name : Except Fault String) (s : Symbols) :
        Reading (List (Except Fault String × Tree) × Ending) :=
      let ⟨t, rest⟩ := readValue fuel s
      match rest with
      | none => ⟨([(name, t)], .cut), none⟩
      | some rest =>
        let ⟨(members, ending), rest⟩ := readMembers fuel false rest
        ⟨((name, t) :: members, ending), rest⟩
    let member (s : Symbols) : Reading (List (Except Fault String × Tree) × Ending) :=
      match s with
      | some '"' :: rest =>
        match readStringBody rest with
        | .broken read skipped => ⟨([(.error read, .flawed skipped skipped)], .cut), none⟩
        | .closed name rest =>
          let name := name.map String.ofList
          match dropSpace rest with
          | some ':' :: rest => value name rest
          | [] => ⟨([(name, .flawed .eofObject .eofObject)], .cut), none⟩
          | _ => ⟨([(name, .flawed .expectedColon .expectedColon)], .cut), none⟩
      | s => ⟨([(.error .keyNotString, (readValue fuel s).found)], .cut), none⟩
    match dropSpace s with
    | [] => ⟨([], .cut), none⟩
    | some '\x7d' :: rest => ⟨([], .closed), some rest⟩
    | c :: rest =>
      if first then member (c :: rest)
      else if c = some ',' then
        match dropSpace rest with
        | [] => ⟨([], .commaCut), none⟩
        | some '\x7d' :: _ => ⟨([], .commaClosed), none⟩
        | rest => member rest
      else ⟨([], .noSeparator), none⟩

end

/-- What a text says, and what comes after it. A value takes at most two calls for every character. -/
def read (s : Symbols) : Reading Tree :=
  readValue (2 * s.length + 2) s

end OperatorDaemon.Json
