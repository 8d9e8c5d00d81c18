/-!
# Packed tables

A table is a list of numerals, each of which packs fifteen fields of twenty-four bits, the first field
highest. Unpacked it is a flat list of numbers, read as ranges, as runs, or as entries that end with a
zero. A field of all ones, greater than every character, fills up the last numeral.
-/

namespace OperatorDaemon.Unicode

/-- The `count` lowest fields of a numeral, the highest first. -/
def fields : Nat → Nat → List Nat
  | 0, _ => []
  | count + 1, n => (n >>> (24 * count)) % 0x1000000 :: fields count n

/-- The fields of a table. -/
def unpack (rows : List Nat) : List Nat :=
  rows.flatMap (fields 15)

/-- Membership in ranges given by the places where it changes. -/
def inRanges (n : Nat) : List Nat → Bool
  | [] => false
  | change :: rest => change ≤ n && !inRanges n rest

/-- The value of a number in runs of a first number, a last one and the value of them all. -/
def valueInRuns (n : Nat) : List Nat → Option Nat
  | first :: last :: value :: rest =>
    if n < first then none
    else if n ≤ last then some value
    else valueInRuns n rest
  | _ => none

/-- The image of a number in runs of a first number, a last one and the image of the first. -/
def imageInRuns (n : Nat) : List Nat → Option Nat
  | first :: last :: image :: rest =>
    if n < first then none
    else if n ≤ last then some (image + (n - first))
    else imageInRuns n rest
  | _ => none

/-- The image of a number in runs of a first number, a last one, a step, and the image of the first. -/
def imageInSteps (n : Nat) : List Nat → Option Nat
  | first :: last :: step :: image :: rest =>
    if n < first then none
    else if n ≤ last ∧ (n - first) % step = 0 then some (image + (n - first))
    else imageInSteps n rest
  | _ => none

/-- The entry of a number, without its final zero. The flag says that the list starts within an entry
that is passed over. -/
def entryOf (n : Nat) (within : Bool) : List Nat → Option (List Nat)
  | [] => none
  | field :: rest =>
    if within then entryOf n (field != 0) rest
    else if field = n then some (rest.takeWhile (· != 0))
    else if n < field then none
    else entryOf n true rest

/-- The third number of the triple that starts with two given ones. -/
def thirdOf (a b : Nat) : List Nat → Option Nat
  | first :: second :: third :: rest =>
    if a < first then none
    else if first = a ∧ second = b then some third
    else thirdOf a b rest
  | _ => none

end OperatorDaemon.Unicode
