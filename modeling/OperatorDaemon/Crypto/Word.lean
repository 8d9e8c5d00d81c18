/-!
# Bytes and words

Numbers as sequences of bytes of either order, and sequences cut into blocks of one size.
-/

namespace OperatorDaemon

/-- How many numbers have so many bytes. -/
def byteRange (size : Nat) : Nat := Nat.pow 256 size

/-- The number that bytes stand for, the greatest digit first. -/
def natOfBytes (bs : List UInt8) : Nat :=
  bs.foldl (fun n b => n * 256 + b.toNat) 0

/-- The `size` lowest bytes of a number, the greatest digit first. -/
def bytesOfNat : Nat → Nat → List UInt8
  | 0, _ => []
  | size + 1, n => bytesOfNat size (n / 256) ++ [UInt8.ofNat n]

/-- The `size` lowest bytes of a number, the least digit first. -/
def bytesOfNatLittle : Nat → Nat → List UInt8
  | 0, _ => []
  | size + 1, n => UInt8.ofNat n :: bytesOfNatLittle size (n / 256)

/-- The number that bytes stand for, the least digit first. -/
def natOfBytesLittle : List UInt8 → Nat
  | [] => 0
  | b :: rest => b.toNat + 256 * natOfBytesLittle rest

/-- A sequence cut into `count` blocks of `size` elements. -/
def blocks {α : Type} (size count : Nat) (xs : List α) : List (List α) :=
  (List.range count).map fun i => (xs.drop (i * size)).take size

@[simp] theorem byteRange_zero : byteRange 0 = 1 := rfl

theorem byteRange_succ (size : Nat) : byteRange (size + 1) = 256 * byteRange size :=
  Nat.mul_comm ..

@[simp] theorem length_bytesOfNat (size n : Nat) : (bytesOfNat size n).length = size := by
  induction size generalizing n with
  | zero => rfl
  | succ size ih => simp [bytesOfNat, ih]

theorem natOfBytes_append_singleton (bs : List UInt8) (b : UInt8) :
    natOfBytes (bs ++ [b]) = natOfBytes bs * 256 + b.toNat := by
  simp [natOfBytes]

/-- Writing a number and reading it keeps its lowest bytes. -/
theorem natOfBytes_bytesOfNat (size n : Nat) :
    natOfBytes (bytesOfNat size n) = n % byteRange size := by
  induction size generalizing n with
  | zero => simp [bytesOfNat, natOfBytes, byteRange, Nat.mod_one]
  | succ size ih =>
    rw [bytesOfNat, natOfBytes_append_singleton, ih, UInt8.toNat_ofNat']
    rw [byteRange_succ, Nat.mod_mul, Nat.mul_comm]
    omega

end OperatorDaemon
