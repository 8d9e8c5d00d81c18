/-!
# The curve secp256k1

Points of `y² = x³ + 7` over the prime field, as `(X : Y : Z)` with `x = X / Z²` and `y = Y / Z³`;
`Z = 0` is the point at infinity.
-/

namespace OperatorDaemon.Secp256k1

/-- The size of the field. -/
def fieldSize : Nat := 0xFFFFFFFFFFFFFFFFFFFFFFFFFFFFFFFFFFFFFFFFFFFFFFFFFFFFFFFEFFFFFC2F

/-- The order of the group. -/
def order : Nat := 0xFFFFFFFFFFFFFFFFFFFFFFFFFFFFFFFEBAAEDCE6AF48A03BBFD25E8CD0364141

/-- A power modulo `m`, for exponents below `2 ^ 256`. -/
def powMod (m base exponent : Nat) : Nat :=
  (List.range 256).foldr
    (fun i acc =>
      let square := acc * acc % m
      if exponent.testBit i then square * base % m else square)
    1

/-- The inverse modulo a prime. -/
def invMod (m a : Nat) : Nat :=
  powMod m a (m - 2)

/-- A point in the form `(X : Y : Z)`. -/
structure Point where
  /-- The first coordinate times `Z²`. -/
  x : Nat
  /-- The second coordinate times `Z³`. -/
  y : Nat
  /-- The common denominator; zero for the point at infinity. -/
  z : Nat

/-- The point at infinity. -/
def infinity : Point := ⟨1, 1, 0⟩

/-- The generator of the group. -/
def generator : Point :=
  ⟨0x79BE667EF9DCBBAC55A06295CE870B07029BFCDB2DCE28D959F2815B16F81798,
    0x483ADA7726A3C4655DA4FBFC0E1108A8FD17B448A68554199C47D08FFB10D4B8, 1⟩

/-- The difference modulo the field size. -/
def sub (a b : Nat) : Nat := (a + (fieldSize - b)) % fieldSize

/-- The double of a point. -/
def Point.double (p : Point) : Point :=
  let m := fieldSize
  let yy := p.y * p.y % m
  let s := 4 * p.x * yy % m
  let t := 3 * p.x * p.x % m
  let x := sub (t * t % m) (2 * s % m)
  let y := sub (t * sub s x % m) (8 * yy * yy % m)
  ⟨x, y, 2 * p.y * p.z % m⟩

/-- The sum of two points. -/
def Point.add (p q : Point) : Point :=
  let m := fieldSize
  if p.z = 0 then q
  else if q.z = 0 then p
  else
    let pzz := p.z * p.z % m
    let qzz := q.z * q.z % m
    let u1 := p.x * qzz % m
    let u2 := q.x * pzz % m
    let s1 := p.y * q.z * qzz % m
    let s2 := q.y * p.z * pzz % m
    if u1 = u2 then
      if s1 = s2 then p.double else infinity
    else
      let h := sub u2 u1
      let r := sub s2 s1
      let hh := h * h % m
      let hhh := h * hh % m
      let v := u1 * hh % m
      let x := sub (sub (r * r % m) hhh) (2 * v % m)
      let y := sub (r * sub v x % m) (s1 * hhh % m)
      ⟨x, y, h * p.z * q.z % m⟩

/-- A multiple of a point, for factors below `2 ^ 256`. -/
def Point.mul (k : Nat) (p : Point) : Point :=
  (List.range 256).foldr
    (fun i acc =>
      let twice := acc.double
      if k.testBit i then twice.add p else twice)
    infinity

/-- The two coordinates of a point that is not at infinity. -/
def Point.affine (p : Point) : Nat × Nat :=
  let inverse := invMod fieldSize p.z
  let square := inverse * inverse % fieldSize
  (p.x * square % fieldSize, p.y * (square * inverse % fieldSize) % fieldSize)

end OperatorDaemon.Secp256k1
