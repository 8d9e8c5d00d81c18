import OperatorDaemon.Text.Ascii

/-!
# IP addresses

An IPv4 address is four decimal numbers between dots, without zeros in front. An IPv6 address is eight
hexadecimal groups between colons; two colons stand for zeros, and the last two groups may be written as
an IPv4 address.
-/

namespace OperatorDaemon

/-- An IPv4 address. -/
structure Ipv4 where
  /-- The number of thirty-two bits. -/
  value : UInt32
  deriving DecidableEq, Repr

/-- An IPv6 address. -/
structure Ipv6 where
  /-- The groups of sixteen bits. -/
  groups : List UInt16
  /-- There are eight of them. -/
  length_groups : groups.length = 8
  deriving DecidableEq, Repr

/-- An address of either kind. -/
inductive IpAddress where
  /-- An IPv4 address. -/
  | v4 (a : Ipv4)
  /-- An IPv6 address. -/
  | v6 (a : Ipv6)
  deriving DecidableEq, Repr

/-! ### Writing -/

namespace Ipv4

/-- The address of the machine itself. -/
def localhost : Ipv4 := ⟨0x7F000001⟩

/-- The address with four given numbers. -/
def ofOctets (a b c d : Nat) : Ipv4 :=
  ⟨UInt32.ofNat (((a * 256 + b) * 256 + c) * 256 + d)⟩

/-- Four decimal numbers between dots. -/
def text (a : Ipv4) : String :=
  let n := a.value.toNat
  ".".intercalate <| [n / 0x1000000, n / 0x10000 % 256, n / 256 % 256, n % 256].map
    fun n => String.ofList (Nat.toDigits 10 n)

/-- The address as two groups of an IPv6 address. -/
def groups (a : Ipv4) : List UInt16 :=
  [UInt16.ofNat (a.value.toNat / 0x10000), UInt16.ofNat (a.value.toNat % 0x10000)]

end Ipv4

namespace Ipv6

/-- The address with the given groups, cut off or filled up with zeros. -/
def ofGroups (gs : List UInt16) : Ipv6 :=
  ⟨(gs ++ List.replicate 8 0).take 8, by simp⟩

/-- The length of the run of zeros that starts at a place. -/
def zeros (gs : List UInt16) (start : Nat) : Nat :=
  ((gs.drop start).takeWhile (· == 0)).length

/-- The start and the length of the first of the longest runs of zeros. -/
def longestZeros (gs : List UInt16) : Nat × Nat :=
  (List.range gs.length).foldl (fun best start =>
    if best.2 < zeros gs start then (start, zeros gs start) else best) (0, 0)

/-- Groups between colons. -/
def groupsText (gs : List UInt16) : String :=
  ":".intercalate (gs.map fun g => String.ofList (Nat.toDigits 16 g.toNat))

/-- The groups, with two colons for the longest run of zeros unless that is a single one. -/
def hexText (a : Ipv6) : String :=
  let (start, count) := longestZeros a.groups
  if count < 2 then groupsText a.groups
  else groupsText (a.groups.take start) ++ "::" ++ groupsText (a.groups.drop (start + count))

/-- The text of an address. One that stands for an IPv4 address ends like it. -/
def text (a : Ipv6) : String :=
  match a.groups with
  | [0, 0, 0, 0, 0, 0xFFFF, high, low] =>
    "::ffff:" ++ (Ipv4.mk (UInt32.ofNat (high.toNat * 0x10000 + low.toNat))).text
  | _ => a.hexText

end Ipv6

namespace IpAddress

/-- The text of an address. -/
def text : IpAddress → String
  | v4 a => a.text
  | v6 a => a.text

/-- The text of an address and a port. -/
def textWithPort (a : IpAddress) (port : Nat) : String :=
  match a with
  | v4 a => a.text ++ s!":{port}"
  | v6 a => "[" ++ a.text ++ s!"]:{port}"

/-! ### Reading -/

/-- The characters that are digits of a radix, and the rest. -/
def spanDigits (radix : Nat) (cs : List Char) : List Nat × List Char :=
  let isDigit (c : Char) : Bool := (hexValue? c).any (· < radix)
  ((cs.takeWhile isDigit).filterMap hexValue?, cs.dropWhile isDigit)

/-- A number of at most so many digits, and the rest. -/
def number? (radix places : Nat) (cs : List Char) : Option (Nat × List Char) :=
  let (digits, rest) := spanDigits radix cs
  if digits.isEmpty || places < digits.length then none
  else some (digits.foldl (fun n d => n * radix + d) 0, rest)

/-- A decimal number below 256 without a zero in front, and the rest. -/
def octet? (cs : List Char) : Option (Nat × List Char) :=
  match number? 10 3 cs with
  | none => none
  | some (n, rest) =>
    if n < 256 ∧ (cs.length = rest.length + 1 ∨ cs.head? ≠ some '0') then some (n, rest) else none

/-- What follows one given character. -/
def after? (mark : Char) : List Char → Option (List Char)
  | [] => none
  | c :: rest => if c = mark then some rest else none

/-- An IPv4 address and the rest. -/
def ipv4? (cs : List Char) : Option (Ipv4 × List Char) := do
  let (a, cs) ← octet? cs
  let (b, cs) ← octet? (← after? '.' cs)
  let (c, cs) ← octet? (← after? '.' cs)
  let (d, cs) ← octet? (← after? '.' cs)
  return (.ofOctets a b c d, cs)

/-- What has been read of an IPv6 address. -/
structure Groups where
  /-- The groups. -/
  groups : List UInt16
  /-- Whether an IPv4 address ends them. -/
  endsInIpv4 : Bool
  /-- What comes after them. -/
  rest : List Char

/-- Up to `limit` groups, with a colon in front of each but the first. -/
def readGroups : (limit : Nat) → (first : Bool) → List Char → Groups
  | 0, _, cs => ⟨[], false, cs⟩
  | limit + 1, first, cs =>
    match if first then some cs else after? ':' cs with
    | none => ⟨[], false, cs⟩
    | some inner =>
      match if limit = 0 then none else ipv4? inner with
      | some (a, rest) => ⟨a.groups, true, rest⟩
      | none =>
        match number? 16 4 inner with
        | none => ⟨[], false, cs⟩
        | some (n, rest) =>
          let more := readGroups limit false rest
          { more with groups := UInt16.ofNat n :: more.groups }

/-- An IPv6 address and the rest. The two colons stand for at least one group. -/
def ipv6? (cs : List Char) : Option (Ipv6 × List Char) :=
  let head := readGroups 8 true cs
  let count := head.groups.length
  if count = 8 then some (.ofGroups head.groups, head.rest)
  else if head.endsInIpv4 then none
  else do
    let rest ← after? ':' (← after? ':' head.rest)
    let tail := readGroups (7 - count) true rest
    let zeros := List.replicate (8 - count - tail.groups.length) 0
    return (.ofGroups (head.groups ++ zeros ++ tail.groups), tail.rest)

/-- The address that a text stands for, all of it. -/
def parse? (text : String) : Option IpAddress :=
  match ipv4? text.toList with
  | some (a, rest) => if rest.isEmpty then some (v4 a) else none
  | none =>
    match ipv6? text.toList with
    | some (a, []) => some (v6 a)
    | _ => none

end IpAddress

end OperatorDaemon
