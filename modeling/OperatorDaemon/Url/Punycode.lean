import OperatorDaemon.Text.Ascii

/-!
# Punycode

Characters beyond ASCII written in ASCII letters and digits. The ASCII characters come first, and behind
them, in the order of their numbers, how far it is from each of the others to the next. Distances are
numbers with digits of thirty-six values, whose places weigh differently as the text goes on.
-/

namespace OperatorDaemon.Punycode

/-- The digit of a value below thirty-six. -/
def digit (n : Nat) : Char :=
  if n < 26 then Char.ofNat (97 + n) else Char.ofNat (22 + n)

/-- The value of a digit. -/
def digitValue? (c : Char) : Option Nat :=
  if isAsciiDigit c then some (c.toNat - 22)
  else if isAsciiLetter c then some ((asciiLower c).toNat - 97)
  else none

/-- The digit from which on the digit at a place ends a number. -/
def threshold (place bias : Nat) : Nat :=
  min 26 (max 1 (36 * (place + 1) - bias))

theorem one_le_threshold (place bias : Nat) : 1 ≤ threshold place bias := by
  unfold threshold; omega

theorem threshold_le (place bias : Nat) : threshold place bias ≤ 26 := by
  unfold threshold; omega

/-- How often a distance is scaled down, and what is left of it. -/
def scaled (distance : Nat) : Nat × Nat :=
  if 455 < distance then ((scaled (distance / 35)).1 + 1, (scaled (distance / 35)).2)
  else (0, distance)
termination_by distance
decreasing_by all_goals omega

/-- The bias after a distance, when `count` characters have been placed. -/
def nextBias (distance count : Nat) (isFirst : Bool) : Nat :=
  let distance := if isFirst then distance / 700 else distance / 2
  let (steps, left) := scaled (distance + distance / count)
  36 * steps + 36 * left / (left + 38)

/-- The digits of a number from a place on. -/
def numberDigits (bias place n : Nat) : List Char :=
  if n < threshold place bias then [digit n]
  else
    digit (threshold place bias + (n - threshold place bias) % (36 - threshold place bias)) ::
      numberDigits bias (place + 1)
        ((n - threshold place bias) / (36 - threshold place bias))
termination_by n
decreasing_by
  have h := one_le_threshold place bias
  exact Nat.lt_of_le_of_lt (Nat.div_le_self _ _) (by omega)

/-- A text being written. -/
structure Writing where
  /-- The distance from the last character that was written. -/
  distance : Nat
  /-- The bias. -/
  bias : Nat
  /-- How many characters have been written. -/
  count : Nat
  /-- The digits so far, the last of them first. -/
  digits : List Char

/-- Go past a character while `point` is being looked for. -/
def Writing.visit (basic point : Nat) (w : Writing) (c : Char) : Writing :=
  if c.toNat < point then { w with distance := w.distance + 1 }
  else if c.toNat = point then
    { distance := 0, bias := nextBias w.distance (w.count + 1) (w.count = basic),
      count := w.count + 1, digits := (numberDigits w.bias 0 w.distance).reverse ++ w.digits }
  else w

/-- Write the characters with the given numbers, which ascend from `least` on. -/
def Writing.visitAll (basic : Nat) (cs : List Char) (least : Nat) (w : Writing) :
    List Nat → Writing
  | [] => w
  | point :: points =>
    let w := { w with distance := w.distance + (point - least) * (w.count + 1) }
    let w := cs.foldl (Writing.visit basic point) w
    visitAll basic cs (point + 1) { w with distance := w.distance + 1 } points

/-- The numbers of the characters beyond ASCII, ascending and each once. -/
def points (cs : List Char) : List Nat :=
  ((cs.map Char.toNat).filter (128 ≤ ·)).mergeSort.eraseDups

/-- The ASCII text of some characters. -/
def encode (cs : List Char) : List Char :=
  let basic := cs.filter (·.toNat < 128)
  let w := Writing.visitAll basic.length cs 128 ⟨0, 72, basic.length, []⟩ (points cs)
  basic ++ (if basic.isEmpty then [] else ['-']) ++ w.digits.reverse

/-- The number that digits stand for and what comes after it. -/
def readNumber (bias place value weight : Nat) : List Char → Option (Nat × List Char)
  | [] => none
  | c :: rest =>
    match digitValue? c with
    | none => none
    | some d =>
      let value := value + d * weight
      if d < threshold place bias then some (value, rest)
      else readNumber bias (place + 1) value (weight * (36 - threshold place bias)) rest

/-- Put the characters that distances stand for into those read so far. `point` and `index` are those
of the last one; there is one distance at most for each of the `limit` characters of the text. -/
def readFrom (limit : Nat) (out : List Char) (point index bias : Nat) (isFirst : Bool)
    (cs : List Char) : Option (List Char) :=
  match limit, cs with
  | _, [] => some out
  | 0, _ => none
  | limit + 1, cs =>
    match readNumber bias 0 0 1 cs with
    | none => none
    | some (distance, rest) =>
      let size := out.length + 1
      let total := index + distance
      let point := point + total / size
      let index := total % size
      if Nat.isValidChar point then
        readFrom limit (out.take index ++ Char.ofNat point :: out.drop index) point (index + 1)
          (nextBias distance size isFirst) false rest
      else none

/-- The characters that an ASCII text stands for. -/
def decode? (cs : List Char) : Option (List Char) :=
  let behind := (cs.reverse.takeWhile (· != '-')).reverse
  let basic := if behind.length = cs.length then [] else cs.take (cs.length - behind.length - 1)
  if basic.any (128 ≤ ·.toNat) then none
  else readFrom behind.length basic 128 0 72 true behind

end OperatorDaemon.Punycode
