import OperatorDaemon.Crypto.Ecdsa
import OperatorDaemon.Ethereum.Address

/-!
# Private keys

A private key is a number from 1 to one less than the order of the group. It has an address and signs
personal messages, which are marked as such before they are hashed.
-/

namespace OperatorDaemon

/-- A private key. -/
structure PrivateKey where
  /-- The number. -/
  scalar : Nat
  /-- It is not zero. -/
  scalar_pos : 0 < scalar
  /-- It is less than the order of the group. -/
  scalar_lt : scalar < Secp256k1.order
  deriving DecidableEq

namespace PrivateKey

/-- The key with a number, if it is one. -/
def ofNat? (n : Nat) : Option PrivateKey :=
  if h : 0 < n ∧ n < Secp256k1.order then some ⟨n, h.1, h.2⟩ else none

/-- The key in the given bytes. Up to eight bytes may be missing in front. -/
def ofBytes? (bs : List UInt8) : Option PrivateKey :=
  if 24 ≤ bs.length ∧ bs.length ≤ 32 then ofNat? (natOfBytes bs) else none

/-- The thirty-two bytes of a key. -/
def bytes (k : PrivateKey) : List UInt8 :=
  bytesOfNat 32 k.scalar

/-- The public point. -/
def point (k : PrivateKey) : Nat × Nat :=
  (Secp256k1.generator.mul k.scalar).affine

/-- The address. -/
def address (k : PrivateKey) : Address :=
  Address.ofPoint k.point.1 k.point.2

/-- A message marked as a personal one. -/
def personalMessage (message : List UInt8) : List UInt8 :=
  Utf8.bytes (s!"\x19Ethereum Signed Message:\n{message.length}") ++ message

/-- The sixty-five bytes of the signature of a personal message. -/
def sign (k : PrivateKey) (message : List UInt8) : List UInt8 :=
  let signature := Ecdsa.sign k.scalar (natOfBytes (Keccak.hash (personalMessage message)))
  bytesOfNat 32 signature.r ++ bytesOfNat 32 signature.s ++ [if signature.odd then 28 else 27]

theorem ofNat?_eq_some {n : Nat} {k : PrivateKey} (h : ofNat? n = some k) : k.scalar = n := by
  unfold ofNat? at h
  split at h
  · cases h; rfl
  · cases h

@[simp] theorem ofNat?_scalar (k : PrivateKey) : ofNat? k.scalar = some k := by
  simp [ofNat?, k.scalar_pos, k.scalar_lt]

end PrivateKey

end OperatorDaemon
