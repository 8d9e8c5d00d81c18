import OperatorDaemon.Wallet.PrivateKey

/-!
# Keys in DER

A key is a sequence of its own, or such a sequence inside another one that names the algorithm and the
curve. Lengths are definite and as short as possible, and nothing follows the end.
-/

namespace OperatorDaemon.Der

/-! ### Items -/

/-- A tag with its contents. -/
structure Item where
  /-- The tag. -/
  tag : UInt8
  /-- The contents. -/
  contents : List UInt8

/-- Whether a byte is a tag that an item may have. -/
def isTag (b : UInt8) : Bool :=
  let n := b.toNat
  n % 32 != 31 &&
    ([1, 2, 3, 4, 5, 6, 9, 10, 12, 18, 19, 20, 21, 22, 23, 24, 26, 30, 0x30, 0x31].contains n ||
      0x40 ≤ n)

/-- The length at the start, and what comes after it. -/
def length? : List UInt8 → Option (Nat × List UInt8)
  | [] => none
  | b :: rest =>
    let n := b.toNat
    if n < 0x80 then some (n, rest)
    else if n = 0x80 ∨ 0x84 < n then none
    else
      let size := n - 0x80
      let length := natOfBytes (rest.take size)
      if rest.length < size ∨ length < 0x80 ∨ length < byteRange (size - 1) then none
      else some (length, rest.drop size)

/-- The item at the start, and what comes after it. -/
def item? : List UInt8 → Option (Item × List UInt8)
  | [] => none
  | tag :: rest =>
    if !isTag tag then none
    else match length? rest with
      | none => none
      | some (length, rest) =>
        if rest.length < length then none else some (⟨tag, rest.take length⟩, rest.drop length)

/-- The contents of an item with the given tag, and what comes after it. -/
def tagged? (tag : UInt8) (bs : List UInt8) : Option (List UInt8 × List UInt8) :=
  match item? bs with
  | some (item, rest) => if item.tag = tag then some (item.contents, rest) else none
  | none => none

/-- The contents of the only item of some bytes, if it has the given tag. -/
def only? (tag : UInt8) (bs : List UInt8) : Option (List UInt8) :=
  match tagged? tag bs with
  | some (contents, []) => some contents
  | _ => none

/-- The optional item with a number of its own, and what comes after it. Items of lower numbers are
passed over. Each round takes one item off, so that as many rounds as bytes suffice. -/
def optional? (number : Nat) : Nat → List UInt8 → Option (Option Item × List UInt8)
  | 0, bs => some (none, bs)
  | _, [] => some (none, [])
  | rounds + 1, tag :: rest =>
    let bs := tag :: rest
    if !isTag tag then none
    else if tag.toNat / 64 ≠ 2 ∨ number < tag.toNat % 32 then some (none, bs)
    else match item? bs with
      | none => none
      | some (item, rest) =>
        if tag.toNat % 32 = number then some (some item, rest) else optional? number rounds rest

/-- Whether bytes are arcs of at most five bytes, `size` of the first of which have been read. -/
def areArcs (size : Nat) : List UInt8 → Bool
  | [] => size == 0
  | b :: rest => size < 5 && areArcs (if b.toNat < 0x80 then 0 else size + 1) rest

/-- Whether bytes are the contents of an object identifier. -/
def isIdentifier (bs : List UInt8) : Bool :=
  3 ≤ bs.length && bs.length ≤ 39 && areArcs 0 bs

/-- The bytes of a bit string that has whole bytes. -/
def wholeBits? : List UInt8 → Option (List UInt8)
  | 0 :: bytes => some bytes
  | _ => none

/-! ### Keys -/

/-- The two forms of a public point. -/
def pointForms (k : PrivateKey) : List (List UInt8) :=
  let (x, y) := k.point
  [4 :: bytesOfNat 32 x ++ bytesOfNat 32 y, (if y % 2 = 0 then 2 else 3) :: bytesOfNat 32 x]

/-- The key in a sequence of its own: version 1, the number, and optionally the name of a curve and the
public point, which has to be the key's own. -/
def key? (der : List UInt8) : Option PrivateKey := do
  let contents ← only? 0x30 der
  let (version, rest) ← tagged? 0x02 contents
  guard (version = [1])
  let (octets, rest) ← tagged? 0x04 rest
  let (curve, rest) ← optional? 0 rest.length rest
  if let some curve := curve then
    guard (curve.tag = 0xA0 && ((only? 0x06 curve.contents).any isIdentifier))
  let (published, rest) ← optional? 1 rest.length rest
  guard rest.isEmpty
  let k ← PrivateKey.ofBytes? octets
  match published with
  | none => return k
  | some published =>
    guard (published.tag = 0xA1)
    let point ← wholeBits? (← only? 0x03 published.contents)
    guard ((pointForms k).contains point)
    return k

/-- The identifier of keys on elliptic curves. -/
def keyAlgorithm : List UInt8 := [0x2A, 0x86, 0x48, 0xCE, 0x3D, 0x02, 0x01]

/-- The identifier of the curve. -/
def curveName : List UInt8 := [0x2B, 0x81, 0x04, 0x00, 0x0A]

/-- Whether bytes are a sequence of further fields, each around one item. -/
def areFurtherFields : Nat → List UInt8 → Bool
  | 0, bs => bs.isEmpty
  | _, [] => true
  | rounds + 1, bs =>
    match item? bs with
    | some (item, rest) =>
      item.tag.toNat / 32 = 5 &&
        (match item? item.contents with
          | some (_, inner) => inner.isEmpty
          | none => false) &&
        areFurtherFields rounds rest
    | none => false

/-- The key in a sequence that names the algorithm and the curve. Version 0 goes without a public key
and version 1 with one, which is not looked at. -/
def wrappedKey? (der : List UInt8) : Option PrivateKey := do
  let contents ← only? 0x30 der
  let (version, rest) ← tagged? 0x02 contents
  guard (version = [0] || version = [1])
  let (algorithm, rest) ← tagged? 0x30 rest
  let (name, parameters) ← tagged? 0x06 algorithm
  guard (name = keyAlgorithm)
  guard (only? 0x06 parameters = some curveName)
  let (inner, rest) ← tagged? 0x04 rest
  let (published, rest) ← optional? 1 rest.length rest
  guard ((version = [1]) = published.isSome)
  if let some published := published then
    guard (published.tag = 0x81 && (wholeBits? published.contents).isSome)
  guard (areFurtherFields rest.length rest)
  key? inner

/-- The key in either form. -/
def anyKey? (der : List UInt8) : Option PrivateKey :=
  key? der <|> wrappedKey? der

end OperatorDaemon.Der
