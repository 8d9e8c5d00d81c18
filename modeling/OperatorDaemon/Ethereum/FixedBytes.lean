import OperatorDaemon.Text.Hex

/-!
# Byte strings of a fixed length

Addresses are twenty bytes and roots thirty-two. Their text is hexadecimal.
-/

namespace OperatorDaemon

/-- Bytes of which there are `n`. -/
structure FixedBytes (n : Nat) where
  /-- The bytes. -/
  bytes : List UInt8
  /-- There are `n` of them. -/
  length_bytes : bytes.length = n
  deriving DecidableEq

namespace FixedBytes

variable {n : Nat}

/-- As many bytes as asked for, cut from a list or filled up with zeros. -/
def ofList (n : Nat) (bs : List UInt8) : FixedBytes n :=
  ⟨(bs ++ List.replicate n 0).take n, by simp⟩

/-- Nothing but zeros. -/
def zero (n : Nat) : FixedBytes n :=
  ⟨List.replicate n 0, by simp⟩

/-- The bytes that a hexadecimal text stands for. -/
def parse (n : Nat) (text : String) : Except Hex.Fault (FixedBytes n) :=
  match h : Hex.decodeExactly n text with
  | .ok bytes => .ok ⟨bytes, Hex.length_of_decodeExactly h⟩
  | .error fault => .error fault

/-- The lower-case hexadecimal text behind `0x`. -/
def hex (b : FixedBytes n) : String :=
  Hex.encodePrefixed b.bytes

instance : Inhabited (FixedBytes n) := ⟨zero n⟩

@[ext] theorem ext {a b : FixedBytes n} (h : a.bytes = b.bytes) : a = b := by
  cases a; cases b; cases h; rfl

end FixedBytes

/-- A deposit root. -/
abbrev Root := FixedBytes 32

end OperatorDaemon
