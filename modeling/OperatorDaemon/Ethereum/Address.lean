import OperatorDaemon.Crypto.Keccak
import OperatorDaemon.Ethereum.FixedBytes

/-!
# Addresses

An address is shown either in lower case or with a checksum: a letter is a capital where the digit at
its place in the hash of the lower-case digits is eight or more.
-/

namespace OperatorDaemon

/-- The address of an account. -/
abbrev Address := FixedBytes 20

namespace Address

/-- The address of nobody. -/
abbrev zero : Address := FixedBytes.zero 20

/-- The digits of the address, with the letters made capitals that the hash asks for. -/
def checksumDigits (digits hash : List Char) : List Char :=
  List.zipWith (fun c h => if 8 ≤ (hexValue? h).getD 0 then asciiUpper c else c) digits hash

/-- The text with the checksum. -/
def checksummed (a : Address) : String :=
  let digits := Hex.encodeChars a.bytes
  let hash := Hex.encodeChars (Keccak.hash (Utf8.encode digits))
  String.ofList ('0' :: 'x' :: checksumDigits digits hash)

/-- The address of the point with the given coordinates. -/
def ofPoint (x y : Nat) : Address :=
  FixedBytes.ofList 20 ((Keccak.hash (bytesOfNat 32 x ++ bytesOfNat 32 y)).drop 12)

end Address

end OperatorDaemon
