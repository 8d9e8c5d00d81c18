import OperatorDaemon.Ethereum.FixedBytes
import OperatorDaemon.Ethereum.Salt
import OperatorDaemon.Json.Failure
import OperatorDaemon.Json.Reader
import OperatorDaemon.Json.Value

/-!
# Types with a JSON form

A codec says how the values of a type are written and how they are read. Reading goes through the syntax
tree in the order of the text, so that the first thing that is wrong is the one reported.
-/

namespace OperatorDaemon.Json

/-- The JSON form of a type. -/
structure Codec (α : Type) where
  /-- The JSON value of a value. -/
  encode : α → Value
  /-- The value that a tree stands for. -/
  decode : Tree → Except Failure α

namespace Codec

variable {α β : Type}

/-! ### Texts -/

/-- The value that a text stands for. -/
def read (c : Codec α) (s : Symbols) : Except Failure α :=
  let ⟨t, rest⟩ := Json.read s
  match c.decode t with
  | .error failure => .error failure
  | .ok a =>
    if (dropSpace (rest.getD [])).isEmpty then .ok a else .error (.fault .trailingCharacters)

/-- The value that the bytes of a text stand for. -/
def readBytes (c : Codec α) (bs : List UInt8) : Except Failure α :=
  c.read (Utf8.symbols bs)

/-- The value that a text stands for. -/
def readText (c : Codec α) (s : String) : Except Failure α :=
  c.read (s.toList.map some)

/-- The codec of a type that is another one in disguise. -/
def imap (c : Codec α) (of : α → β) (back : β → α) : Codec β where
  encode b := c.encode (back b)
  decode t := (c.decode t).map of

/-! ### Scalars -/

/-- Texts. -/
def string : Codec String where
  encode := .string
  decode
    | .string (.ok s) => .ok s
    | t => .error (t.rejected "a string")

/-- Truth values. -/
def bool : Codec Bool where
  encode := .bool
  decode
    | .bool b => .ok b
    | t => .error (t.rejected "a boolean")

/-- A number from zero to `limit`, which is what `name` stands for in reports. -/
def decodeNatural (limit : Nat) (name : String) : Tree → Except Failure Nat
  | .number n =>
    match n.value with
    | .error fault => .error (.fault fault)
    | .ok (.natural n) =>
      if n ≤ limit then .ok n
      else .error (.here (.wrongValue (NumberValue.described (.natural n)) name))
    | .ok (.negative n) =>
      .error (.here (.wrongValue (NumberValue.described (.negative n)) name))
    | .ok (.float f) => .error (.here (.wrongType (NumberValue.described (.float f)) name))
  | t => .error (t.rejected name)

/-- Counts of 32 bits. -/
def uint32 : Codec UInt32 where
  encode n := .number n.toNat
  decode t := (decodeNatural (0xFFFFFFFF) "u32" t).map UInt32.ofNat

/-- Amounts of 64 bits. -/
def uint64 : Codec UInt64 where
  encode n := .number n.toNat
  decode t := (decodeNatural (0xFFFFFFFFFFFFFFFF) "u64" t).map UInt64.ofNat

/-- A salt is written in hexadecimal and read from a text of any radix or from a number of 64 bits. -/
def salt : Codec Salt where
  encode s := .string s.hex
  decode
    | .string (.ok s) =>
      match Salt.parse s with
      | .ok salt => .ok salt
      | .error _ => .error (.here (.wrongValue ("string " ++ Quoted.text s) "a 32 byte hex string"))
    | .number n =>
      match n.value with
      | .ok (.natural n) =>
        if h : n < saltLimit then .ok ⟨n, h⟩
        else .error (.here (.wrongValue (NumberValue.described (.natural n)) "a 32 byte hex string"))
      | _ => .error ((Tree.number n).rejected "a 32 byte hex string")
    | t => .error (t.rejected "a 32 byte hex string")

/-! ### Byte strings -/

/-- What is expected of bytes of a fixed length. -/
def bytesExpected (n : Nat) : String :=
  s!"{n} bytes, represented as a hex string of length {2 * n}, an array of u8, or raw bytes"

/-- What follows the last of `n` bytes given as a list. One more byte is reported as such; one more
value of another kind is passed over if the list ends there. -/
def afterBytes (n : Nat) : List Tree → Ending → Except Failure Unit
  | [], .closed | [], .commaClosed => .ok ()
  | [], .cut | [], .commaCut => .error (.fault .eofList)
  | [], .noSeparator => .error (.fault .trailingCharacters)
  | extra :: rest, ending =>
    match decodeNatural 255 "u8" extra, extra with
    | .ok _, _ => .error (.here (.wrongLength (n + 1) s!"exactly {n} bytes"))
    | .error _, .array .. | .error _, .object .. | .error _, .flawed .. | .error _, .missing =>
      .error (Failure.under (.item n) (.fault .trailingCharacters))
    | .error _, _ =>
      match restFault rest ending with
      | none => .ok ()
      | some fault => .error (Failure.under (.item n) (.fault fault))

/-- The bytes of a list that should hold `n` of them, from the one with this index on. -/
def decodeBytes (n index : Nat) (ending : Ending) : List Tree → Except Failure (List UInt8)
  | [] =>
    if index = n then (afterBytes n [] ending).map fun _ => []
    else match ending.listFault with
      | some fault => .error (.fault fault)
      | none => .error (.here (.wrongLength index s!"exactly {n} bytes"))
  | t :: rest =>
    if index = n then (afterBytes n (t :: rest) ending).map fun _ => []
    else match decodeNatural 255 "u8" t with
      | .error failure => .error (failure.under (.item index))
      | .ok b => (decodeBytes n (index + 1) ending rest).map (UInt8.ofNat b :: ·)

/-- Bytes of a fixed length are written in hexadecimal, and read from that or from a list of bytes. -/
def fixedBytes (n : Nat) : Codec (FixedBytes n) where
  encode b := .string b.hex
  decode
    | .string (.ok s) =>
      match FixedBytes.parse n s with
      | .ok b => .ok b
      | .error fault => .error (.here (.wrongText fault.message))
    | .array items ending => (decodeBytes n 0 ending items).map (FixedBytes.ofList n)
    | t => .error (t.rejected (bytesExpected n))

/-! ### Lists, options and enumerations -/

/-- The items of a list, the first of which has this index. -/
def decodeItems (c : Codec α) (index : Nat) : List Tree → Except Failure (List α)
  | [] => .ok []
  | t :: rest =>
    match c.decode t with
    | .error failure => .error (failure.under (.item index))
    | .ok a => (decodeItems c (index + 1) rest).map (a :: ·)

/-- Lists. -/
def list (c : Codec α) : Codec (List α) where
  encode as := .array (as.map c.encode)
  decode
    | .array items ending =>
      match decodeItems c 0 items with
      | .error failure => .error failure
      | .ok as =>
        match ending.listFault with
        | some fault => .error (.fault fault)
        | none => .ok as
    | t => .error (t.rejected "a sequence")

/-- A value that may be null. -/
def option (c : Codec α) : Codec (Option α) where
  encode
    | none => .null
    | some a => c.encode a
  decode
    | .null => .ok none
    | t => (c.decode t).map some

/-- The value of a name. -/
def variantOf (variants : List (String × α)) (name : String) : Except Failure α :=
  match variants.lookup name with
  | some a => .ok a
  | none => .error (.here (.unknownVariant name (variants.map (·.1))))

/-- An enumeration. A value is its name, or an object with its name as the only one, for null. -/
def enumeration (variants : List (String × α)) (nameOf : α → String) : Codec α where
  encode a := .string (nameOf a)
  decode
    | .string (.ok name) => variantOf variants name
    | .string (.error fault) => .error (.fault fault)
    | .missing => .error (.fault .eofValue)
    | .flawed .eofString _ => .error (.fault .eofString)
    | .flawed .controlCharacter _ => .error (.fault .controlCharacter)
    | .flawed .invalidEscape _ => .error (.fault .invalidEscape)
    | .object [] .cut => .error (.fault .eofValue)
    | .object ((.error .keyNotString, found) :: _) _ =>
      .error (found.rejected "variant identifier")
    | .object ((.error fault, _) :: _) _ => .error (.fault fault)
    | .object ((.ok name, t) :: rest) ending =>
      match variantOf variants name with
      | .error failure => .error failure
      | .ok a =>
        match t with
        | .null =>
          match rest, ending with
          | [], .closed => .ok a
          | [], .cut => .error (.fault .eofObject)
          | _, _ => .error (.fault .expectedValue)
        | t => .error (t.rejected "unit")
    | _ => .error (.fault .expectedValue)

end Codec

end OperatorDaemon.Json
