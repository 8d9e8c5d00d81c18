import OperatorDaemon.Crypto.Secp256k1
import OperatorDaemon.Crypto.Sha256

/-!
# Deterministic signatures

Signatures over secp256k1 whose secret number is derived from the key and the hash, so that a key
signs a message in one way only. Of the two values that `s` may take the lower one is used; the
parity of the secret point goes with the signature.
-/

namespace OperatorDaemon.Ecdsa

open Secp256k1

/-- A signature with the parity that tells the public key apart. -/
structure Signature where
  /-- The first coordinate of the secret point. -/
  r : Nat
  /-- The proof of knowledge of the key. -/
  s : Nat
  /-- Whether the second coordinate of the secret point is odd. -/
  odd : Bool
  deriving DecidableEq, Repr

/-- The state of the generator of secret numbers. -/
structure Generator where
  /-- The key of the keyed hash. -/
  key : List UInt8
  /-- The last block. -/
  block : List UInt8

/-- Stir data into the generator. -/
def Generator.stir (g : Generator) (mark : UInt8) (data : List UInt8) : Generator :=
  let key := Sha256.keyedHash g.key (g.block ++ mark :: data)
  ⟨key, Sha256.keyedHash key g.block⟩

/-- The generator for a key and a hash. -/
def Generator.new (key hash : Nat) : Generator :=
  let data := bytesOfNat 32 key ++ bytesOfNat 32 (hash % order)
  let start : Generator := ⟨List.replicate 32 0, List.replicate 32 1⟩
  (start.stir 0 data).stir 1 data

/-- The next number, and the generator for the one after it. -/
def Generator.next (g : Generator) : Nat × Generator :=
  let block := Sha256.keyedHash g.key g.block
  (natOfBytes block, Generator.stir ⟨g.key, block⟩ 0 [])

/-- The signature with a given secret number, unless one of its parts is zero. -/
def signWith? (key hash secret : Nat) : Option Signature :=
  if secret = 0 ∨ order ≤ secret then none
  else
    let (x, y) := (Point.mul secret generator).affine
    let r := x % order
    let s := invMod order secret * ((hash + r * key) % order) % order
    if r = 0 ∨ s = 0 then none
    else if s ≤ order / 2 then some ⟨r, s, y % 2 = 1⟩
    else some ⟨r, order - s, y % 2 = 0⟩

/-- The signature with the first of the next `tries` numbers that yields one. -/
def signFrom (key hash : Nat) : Nat → Generator → Signature
  | 0, _ => ⟨0, 0, false⟩
  | tries + 1, g =>
    let (secret, g) := g.next
    (signWith? key hash secret).getD (signFrom key hash tries g)

/-- The signature of a hash. A number is unusable once in about `2 ^ 128` tries. -/
def sign (key hash : Nat) : Signature :=
  signFrom key hash 16 (Generator.new key hash)

end OperatorDaemon.Ecdsa
