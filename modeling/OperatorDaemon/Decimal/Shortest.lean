/-!
# Shortest decimal digits

The fewest decimal digits that read back as a given floating-point number, and among those of equal
number the ones nearest to it. All arithmetic is on natural numbers.
-/

namespace OperatorDaemon.Decimal

/-- A positive fraction. -/
structure Ratio where
  /-- The numerator. -/
  num : Nat
  /-- The denominator. -/
  den : Nat

/-- The order of fractions. -/
def Ratio.le (a b : Ratio) : Bool := a.num * b.den ≤ b.num * a.den

/-- The strict order of fractions. -/
def Ratio.lt (a b : Ratio) : Bool := a.num * b.den < b.num * a.den

/-- A natural number times a power of a base. -/
def Ratio.scaled (base m : Nat) (e : Int) : Ratio :=
  if 0 ≤ e then ⟨m * Nat.pow base e.toNat, 1⟩ else ⟨m, Nat.pow base (-e).toNat⟩

/-- A positive number `m * 2 ^ e` with the bounds of the numbers that round to it. -/
structure Rounded where
  /-- The number. -/
  value : Ratio
  /-- The lower bound. -/
  low : Ratio
  /-- The upper bound. -/
  high : Ratio
  /-- Whether the bounds round to the number. -/
  closed : Bool

/-- The number with the given bits, sign apart. -/
def Rounded.ofBits (bits : Nat) : Rounded :=
  let fraction : Nat := bits % 0x10000000000000
  let biased : Nat := bits / 0x10000000000000 % 2048
  let m : Nat := if biased = 0 then fraction else fraction + 0x10000000000000
  let e : Int := (if biased = 0 then 1 else (biased : Int)) - 1075
  -- The gap below a power of two is half the gap above it.
  let low := if fraction = 0 ∧ 1 < biased then Ratio.scaled 2 (4 * m - 1) (e - 2)
    else Ratio.scaled 2 (2 * m - 1) (e - 1)
  ⟨Ratio.scaled 2 m e, low, Ratio.scaled 2 (2 * m + 1) (e - 1), m % 2 == 0⟩

/-- Whether a fraction rounds to the number. -/
def Rounded.contains (r : Rounded) (a : Ratio) : Bool :=
  if r.closed then r.low.le a && a.le r.high else r.low.lt a && a.lt r.high

/-- The power of ten of the first digit of a number. -/
def magnitude (a : Ratio) : Int :=
  ((List.range 634).find? fun (i : Nat) => a.lt (Ratio.scaled 10 1 ((i : Int) - 323))).elim 310
    fun (i : Nat) => (i : Int) - 324

/-- The multiple of `10 ^ e` that reads back as the number and is nearest to it, if there is one. -/
def onGrid (r : Rounded) (e : Int) : Option Nat :=
  let grid := Ratio.scaled 10 1 e
  let below := r.value.num * grid.den / (r.value.den * grid.num)
  let lower := Ratio.scaled 10 below e
  let upper := Ratio.scaled 10 (below + 1) e
  match r.contains lower, r.contains upper with
  | false, false => none
  | true, false => some below
  | false, true => some (below + 1)
  | true, true =>
    -- Twice the number against the sum of its two neighbours.
    let twice : Ratio := ⟨2 * r.value.num, r.value.den⟩
    let sum := Ratio.scaled 10 (2 * below + 1) e
    if twice.lt sum then some below
    else if sum.lt twice then some (below + 1)
    else some (if below % 2 = 0 then below else below + 1)

/-- The shortest digits of a positive number given by its bits, and the power of ten of the last one.
A number just below a power of ten may round up to it, which leaves one zero to drop. -/
def shortest (bits : Nat) : Nat × Int :=
  let r := Rounded.ofBits bits
  let top := magnitude r.value
  match (List.range 17).findSome? fun (n : Nat) => (onGrid r (top - n)).map fun d => (d, top - n) with
  | some (d, e) => if d % 10 = 0 then (d / 10, e + 1) else (d, e)
  | none => (0, 0)

end OperatorDaemon.Decimal
