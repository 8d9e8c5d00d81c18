import OperatorDaemon.Crypto.Word

/-!
# The hash Keccak-256

The sponge over the permutation of twenty-five 64-bit lanes, with the first padding of the function
(a one bit, then zeros, then a one bit). The lane at column `x` and row `y` has index `x + 5 * y`.
-/

namespace OperatorDaemon.Keccak

/-- The lanes of a state. -/
abbrev Lanes := List UInt64

/-- A lane rotated towards its high end. -/
def rotate (w : UInt64) (n : Nat) : UInt64 :=
  if n = 0 then w else (w <<< UInt64.ofNat n) ||| (w >>> UInt64.ofNat (64 - n))

/-- How far each lane is rotated. -/
def rotations : List Nat :=
  [0, 1, 62, 28, 27, 36, 44, 6, 55, 20, 3, 10, 43, 25, 39, 41, 45, 15, 21, 8, 18, 2, 61, 56, 14]

/-- The constants of the rounds. -/
def roundConstants : List UInt64 :=
  [0x0000000000000001, 0x0000000000008082, 0x800000000000808A, 0x8000000080008000,
    0x000000000000808B, 0x0000000080000001, 0x8000000080008081, 0x8000000000008009,
    0x000000000000008A, 0x0000000000000088, 0x0000000080008009, 0x000000008000000A,
    0x000000008000808B, 0x800000000000008B, 0x8000000000008089, 0x8000000000008003,
    0x8000000000008002, 0x8000000000000080, 0x000000000000800A, 0x800000008000000A,
    0x8000000080008081, 0x8000000000008080, 0x0000000080000001, 0x8000000080008008]

/-- Mix the parity of two neighbouring columns into every lane. -/
def mixColumns (a : Lanes) : Lanes :=
  let parity (x : Nat) : UInt64 :=
    a.getD x 0 ^^^ a.getD (x + 5) 0 ^^^ a.getD (x + 10) 0 ^^^ a.getD (x + 15) 0 ^^^ a.getD (x + 20) 0
  let parities := (List.range 5).map parity
  let effect := (List.range 5).map fun x =>
    parities.getD ((x + 4) % 5) 0 ^^^ rotate (parities.getD ((x + 1) % 5) 0) 1
  (List.range 25).map fun i => a.getD i 0 ^^^ effect.getD (i % 5) 0

/-- Rotate each lane and move it to its new place. -/
def moveLanes (a : Lanes) : Lanes :=
  let turned := List.zipWith rotate a rotations
  (List.range 25).map fun i => turned.getD ((i % 5 + 3 * (i / 5)) % 5 + 5 * (i % 5)) 0

/-- Combine each lane with the two that follow it in its row. -/
def mixRows (a : Lanes) : Lanes :=
  (List.range 25).map fun i =>
    let lane (step : Nat) : UInt64 := a.getD ((i + step) % 5 + 5 * (i / 5)) 0
    lane 0 ^^^ ((~~~ lane 1) &&& lane 2)

/-- One round. -/
def round (a : Lanes) (constant : UInt64) : Lanes :=
  match mixRows (moveLanes (mixColumns a)) with
  | first :: rest => (first ^^^ constant) :: rest
  | [] => []

/-- The permutation. -/
def permute (a : Lanes) : Lanes :=
  roundConstants.foldl round a

/-- The bytes absorbed between two permutations. -/
def rate : Nat := 136

/-- The message with its padding, a whole number of blocks. -/
def pad (message : List UInt8) : List UInt8 :=
  let missing := rate - message.length % rate
  if missing = 1 then message ++ [0x81]
  else message ++ 0x01 :: List.replicate (missing - 2) 0 ++ [0x80]

/-- Mix one block into the state and permute. -/
def absorb (a : Lanes) (block : List UInt8) : Lanes :=
  let words := (blocks 8 25 block).map fun w => UInt64.ofNat (natOfBytesLittle w)
  permute (List.zipWith (· ^^^ ·) a words)

/-- The hash of a message, thirty-two bytes. -/
def hash (message : List UInt8) : List UInt8 :=
  let padded := pad message
  let final := (blocks rate (padded.length / rate) padded).foldl absorb (List.replicate 25 0)
  bytesOfNatLittle 32 (natOfBytesLittle ((final.take 4).flatMap fun w => bytesOfNatLittle 8 w.toNat))

end OperatorDaemon.Keccak
