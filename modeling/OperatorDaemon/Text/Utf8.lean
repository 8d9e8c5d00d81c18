/-!
# UTF-8

Texts as bytes and back. Reading splits any bytes into pieces: characters, and the longest stretches
that could still have become one. Strict reading refuses a text with such a stretch and says where it
stands; lossy reading puts the replacement character in its place.
-/

namespace OperatorDaemon.Utf8

/-! ### Writing -/

/-- The bytes of one character. -/
def encodeChar (c : Char) : List UInt8 :=
  let n := c.toNat
  if n < 0x80 then [UInt8.ofNat n]
  else if n < 0x800 then [UInt8.ofNat (0xC0 + n / 0x40), UInt8.ofNat (0x80 + n % 0x40)]
  else if n < 0x10000 then
    [UInt8.ofNat (0xE0 + n / 0x1000), UInt8.ofNat (0x80 + n / 0x40 % 0x40),
      UInt8.ofNat (0x80 + n % 0x40)]
  else
    [UInt8.ofNat (0xF0 + n / 0x40000), UInt8.ofNat (0x80 + n / 0x1000 % 0x40),
      UInt8.ofNat (0x80 + n / 0x40 % 0x40), UInt8.ofNat (0x80 + n % 0x40)]

/-- The bytes of a list of characters. -/
def encode (cs : List Char) : List UInt8 :=
  cs.flatMap encodeChar

/-- The bytes of a text. -/
def bytes (s : String) : List UInt8 :=
  encode s.toList

@[simp] theorem encode_nil : encode [] = [] := rfl

@[simp] theorem encode_cons (c : Char) (cs : List Char) :
    encode (c :: cs) = encodeChar c ++ encode cs := rfl

/-! ### Reading -/

/-- What a stretch of bytes says. -/
inductive Piece where
  /-- A character. -/
  | char (c : Char)
  /-- So many bytes that no text goes on with. -/
  | invalid (size : Nat)
  /-- So many bytes at the end that begin a character and do not finish it. -/
  | unfinished (size : Nat)
  deriving DecidableEq, Repr

/-- A character whose first bytes have been read. -/
structure Pending where
  /-- The bits read so far. -/
  value : Nat
  /-- The bytes that are still to come. -/
  owed : Nat
  /-- The least value of the next byte. -/
  low : UInt8
  /-- The greatest value of the next byte. -/
  high : UInt8
  /-- The bytes read so far. -/
  size : Nat

/-- What a byte begins: a piece of its own, or a longer character. -/
def start (b : UInt8) : Piece ⊕ Pending :=
  let n := b.toNat
  if n < 0x80 then .inl (.char (Char.ofNat n))
  else if n < 0xC2 then .inl (.invalid 1)
  else if n < 0xE0 then .inr ⟨n - 0xC0, 1, 0x80, 0xBF, 1⟩
  else if n = 0xE0 then .inr ⟨0, 2, 0xA0, 0xBF, 1⟩
  else if n = 0xED then .inr ⟨0xD, 2, 0x80, 0x9F, 1⟩
  else if n < 0xF0 then .inr ⟨n - 0xE0, 2, 0x80, 0xBF, 1⟩
  else if n = 0xF0 then .inr ⟨0, 3, 0x90, 0xBF, 1⟩
  else if n < 0xF4 then .inr ⟨n - 0xF0, 3, 0x80, 0xBF, 1⟩
  else if n = 0xF4 then .inr ⟨4, 3, 0x80, 0x8F, 1⟩
  else .inl (.invalid 1)

/-- The pieces of the bytes, after the beginning of a character or from the start of one. -/
def piecesFrom : Option Pending → List UInt8 → List Piece
  | none, [] => []
  | some p, [] => [.unfinished p.size]
  | none, b :: rest =>
    match start b with
    | .inl piece => piece :: piecesFrom none rest
    | .inr p => piecesFrom (some p) rest
  | some p, b :: rest =>
    if p.low ≤ b ∧ b ≤ p.high then
      let value := p.value * 0x40 + (b.toNat - 0x80)
      if p.owed = 1 then .char (Char.ofNat value) :: piecesFrom none rest
      else piecesFrom (some ⟨value, p.owed - 1, 0x80, 0xBF, p.size + 1⟩) rest
    else
      .invalid p.size ::
        match start b with
        | .inl piece => piece :: piecesFrom none rest
        | .inr p => piecesFrom (some p) rest

/-- The pieces of a sequence of bytes. -/
def pieces (bs : List UInt8) : List Piece :=
  piecesFrom none bs

/-- Why bytes are no text. -/
inductive Fault where
  /-- From `index` on, `size` bytes fit into no text. -/
  | invalid (size index : Nat)
  /-- The bytes end within the character at `index`. -/
  | unfinished (index : Nat)
  deriving DecidableEq, Repr

/-- The wording of a fault. -/
def Fault.message : Fault → String
  | .invalid size index => s!"invalid utf-8 sequence of {size} bytes from index {index}"
  | .unfinished index => s!"incomplete utf-8 byte sequence from index {index}"

/-- The characters of pieces, the first of which stands at `index`. -/
def charsOfPieces (index : Nat) : List Piece → Except Fault (List Char)
  | [] => .ok []
  | .char c :: rest => (charsOfPieces (index + (encodeChar c).length) rest).map (c :: ·)
  | .invalid size :: _ => .error (.invalid size index)
  | .unfinished _ :: _ => .error (.unfinished index)

/-- Strict reading. -/
def decode (bs : List UInt8) : Except Fault String :=
  (charsOfPieces 0 (pieces bs)).map String.ofList

/-- A piece as characters, with `none` for every byte that belongs to none. -/
def Piece.symbols : Piece → List (Option Char)
  | .char c => [some c]
  | .invalid size | .unfinished size => List.replicate size none

/-- The characters of the bytes, with `none` for every byte that belongs to none. -/
def symbols (bs : List UInt8) : List (Option Char) :=
  (pieces bs).flatMap Piece.symbols

/-- The character that lossy reading makes of a piece. -/
def Piece.shown : Piece → Char
  | .char c => c
  | _ => '\uFFFD'

/-- Lossy reading: what is no character becomes the replacement character. -/
def decodeLossy (bs : List UInt8) : String :=
  String.ofList ((pieces bs).map Piece.shown)

end OperatorDaemon.Utf8
