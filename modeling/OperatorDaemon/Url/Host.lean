import OperatorDaemon.Text.Percent
import OperatorDaemon.Url.Basic
import OperatorDaemon.Url.Domain

/-!
# Hosts of URLs

A host in brackets is an IPv6 address. For a well-known scheme any other host is a domain name, or an
IPv4 address if its last label is a number; numbers may be hexadecimal or octal, and the last one may
stand for several bytes. For other schemes a host is any text without separators.
-/

namespace OperatorDaemon.Url

/-- Why a text is no URL. -/
inductive Fault where
  /-- A host is missing. -/
  | emptyHost
  /-- A host is no domain name. -/
  | invalidDomain
  /-- A port is no number, or too large. -/
  | invalidPort
  /-- A host that ends in a number is no IPv4 address. -/
  | invalidIpv4
  /-- What stands in brackets is no IPv6 address. -/
  | invalidIpv6
  /-- A host has a character that no host has. -/
  | invalidCharacter
  /-- There is no scheme. -/
  | noScheme
  deriving DecidableEq, Repr

/-- The wording of a fault. -/
def Fault.message : Fault → String
  | .emptyHost => "empty host"
  | .invalidDomain => "invalid international domain name"
  | .invalidPort => "invalid port number"
  | .invalidIpv4 => "invalid IPv4 address"
  | .invalidIpv6 => "invalid IPv6 address"
  | .invalidCharacter => "invalid domain character"
  | .noScheme => "relative URL without a base"

/-! ### IPv4 -/

/-- The value of digits of a radix. -/
def ofDigits? (radix : Nat) (cs : List Char) : Option Nat :=
  cs.foldl (fun n c => do
    let n ← n
    let d ← hexValue? c
    if d < radix then some (n * radix + d) else none) (some 0)

/-- The number that a label is. -/
def labelNumber? : List Char → Option Nat
  | [] => none
  | '0' :: 'x' :: rest => ofDigits? 16 rest
  | '0' :: 'X' :: rest => ofDigits? 16 rest
  | '0' :: c :: rest => ofDigits? 8 (c :: rest)
  | cs => ofDigits? 10 cs

/-- The labels of a name, without an empty one at the end. -/
def hostLabels (cs : List Char) : List (List Char) :=
  let labels := Domain.labels cs
  if labels.getLast? = some [] then labels.dropLast else labels

/-- Whether the last label of a name is a number. -/
def endsInNumber (cs : List Char) : Bool :=
  match (hostLabels cs).getLast? with
  | none => false
  | some label => (!label.isEmpty && label.all isAsciiDigit) || (labelNumber? label).isSome

/-- The IPv4 address that numbers make up. All but the last are bytes, and the last fills what is left. -/
def ipv4OfNumbers? (numbers : List Nat) : Option Ipv4 :=
  let bytes := numbers.dropLast
  let last := numbers.getLast?.getD 0
  if numbers.length ≤ 4 ∧ bytes.all (· < 256) ∧ last < Nat.pow 256 (4 - bytes.length) then
    some ⟨UInt32.ofNat (bytes.foldl (· * 256 + ·) 0 * Nat.pow 256 (4 - bytes.length) + last)⟩
  else none

/-- The IPv4 address that a name is. -/
def readIpv4 (cs : List Char) : Except Fault Host :=
  match (hostLabels cs).mapM labelNumber? with
  | none => .error .invalidIpv4
  | some numbers =>
    match ipv4OfNumbers? numbers with
    | none => .error .invalidIpv4
    | some a => .ok (.ipv4 a)

/-! ### IPv6 -/

/-- Up to four hexadecimal digits as a number, and the rest. -/
def hexGroup (cs : List Char) : Nat × List Char :=
  let digits := (cs.take 4).takeWhile fun c => (hexValue? c).isSome
  ((digits.filterMap hexValue?).foldl (fun n d => n * 16 + d) 0, cs.drop digits.length)

/-- The groups of an IPv6 address in reverse and the place of the two colons. -/
abbrev Found := List UInt16 × Option Nat

/-- Read the groups of an IPv6 address behind those found so far. A group or two colons come next, unless
nothing comes any more. -/
def readGroups : (fuel : Nat) → Found → List Char → Option Found
  | 0, _, _ => none
  | _, found, [] => some found
  | fuel + 1, (groups, gap), cs =>
    if groups.length = 8 then none
    else match cs with
    | ':' :: rest =>
      if gap.isSome then none else readGroups fuel (0 :: groups, some (groups.length + 1)) rest
    | cs =>
      let (n, rest) := hexGroup cs
      match rest with
      | [] => some (UInt16.ofNat n :: groups, gap)
      | ':' :: [] => none
      | ':' :: rest => readGroups fuel (UInt16.ofNat n :: groups, gap) rest
      | '.' :: _ =>
        if rest.length = cs.length ∨ 6 < groups.length then none
        else match IpAddress.ipv4? cs with
          | some (a, []) => some (a.groups.reverse ++ groups, gap)
          | _ => none
      | _ => none

/-- The IPv6 address of groups with zeros in place of the two colons. -/
def ipv6OfGroups? : Found → Option Ipv6
  | (groups, none) => if groups.length = 8 then some (.ofGroups groups.reverse) else none
  | (groups, some gap) =>
    let groups := groups.reverse
    some (.ofGroups (groups.take gap ++ List.replicate (8 - groups.length) 0 ++ groups.drop gap))

/-- The IPv6 address between brackets. -/
def readIpv6 (cs : List Char) : Except Fault Host :=
  let start : Option (Found × List Char) := match cs with
    | ':' :: ':' :: rest => some (([0], some 1), rest)
    | ':' :: _ => none
    | cs => some (([], none), cs)
  let address := do
    let (found, rest) ← start
    ipv6OfGroups? (← readGroups (rest.length + 1) found rest)
  match address with
  | none => .error .invalidIpv6
  | some a => .ok (.ipv6 a)

/-- The IPv6 address in brackets, of which the first has been read. -/
def readBracketed (cs : List Char) : Except Fault Host :=
  match cs.reverse with
  | ']' :: rest => readIpv6 rest.reverse
  | _ => .error .invalidIpv6

/-! ### Hosts -/

/-- The host of a URL with a well-known scheme. -/
def readSpecialHost : List Char → Except Fault Host
  | '[' :: rest => readBracketed rest
  | cs =>
    match Utf8.decode (Percent.decode (Utf8.encode cs)) with
    | .error _ => .error .invalidDomain
    | .ok name =>
      match Domain.ascii? name.toList with
      | none => .error .invalidDomain
      | some [] => .error .emptyHost
      | some name => if endsInNumber name then readIpv4 name else .ok (.name (String.ofList name))

/-- The host of a URL with another scheme, which may be empty. -/
def readOtherHost : List Char → Except Fault (Option Host)
  | [] => .ok none
  | '[' :: rest => (readBracketed rest).map some
  | cs =>
    if cs.any fun c => c.toNat = 0 || " #/:<>?@[\\]^|".toList.contains c then .error .invalidCharacter
    else .ok (some (.name (String.ofList (Percent.encode Percent.isControl cs))))

end OperatorDaemon.Url
