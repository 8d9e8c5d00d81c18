import OperatorDaemon.Ethereum.Address
import OperatorDaemon.Proofs.Text.Hex

/-!
# Addresses with a checksum

A checksum changes the case of digits and nothing else. So the text of an address always has the same length,
and no other address has it.
-/

namespace OperatorDaemon

lemma Keccak.length_hash (message : List UInt8) : (hash message).length = 32 := rfl

namespace Address

lemma asciiLower_hexDigit :
    ∀ n < 16, asciiLower (hexDigit n) = hexDigit n ∧ asciiLower (asciiUpper (hexDigit n)) = hexDigit n := by
  decide

/-- The digits are what is left of a checksum when its capitals are made small. -/
lemma map_asciiLower_checksumDigits {digits hash : List Char} (hhash : digits.length ≤ hash.length)
    (hdigits : ∀ c ∈ digits, ∃ n < 16, c = hexDigit n) :
    (checksumDigits digits hash).map asciiLower = digits := by
  induction digits generalizing hash with
  | nil => rfl
  | cons c digits ih =>
    cases hash with
    | nil => simp at hhash
    | cons h hash =>
      obtain ⟨n, hn, rfl⟩ := hdigits c List.mem_cons_self
      obtain ⟨hsmall, hcapital⟩ := asciiLower_hexDigit n hn
      have htail := ih (Nat.le_of_succ_le_succ hhash) fun d hd => hdigits d (List.mem_cons_of_mem _ hd)
      rw [checksumDigits, List.zipWith_cons_cons, List.map_cons, ← checksumDigits, htail]
      split_ifs
      · rw [hcapital]
      · rw [hsmall]

/-- The digits of an address with their checksum. -/
def shownDigits (a : Address) : List Char :=
  checksumDigits (Hex.encodeChars a.bytes)
    (Hex.encodeChars (Keccak.hash (Utf8.encode (Hex.encodeChars a.bytes))))

lemma toList_checksummed (a : Address) : a.checksummed.toList = '0' :: 'x' :: a.shownDigits :=
  String.toList_ofList

lemma map_asciiLower_shownDigits (a : Address) :
    a.shownDigits.map asciiLower = Hex.encodeChars a.bytes := by
  refine map_asciiLower_checksumDigits ?_ fun c => Hex.exists_hexDigit_of_mem
  rw [Hex.length_encodeChars, Hex.length_encodeChars, a.length_bytes, Keccak.length_hash]
  decide

/-- All addresses have texts of one length. -/
lemma length_checksummed (a : Address) : a.checksummed.toList.length = 42 := by
  have hdigits : a.shownDigits.length = 40 := by
    rw [← List.length_map asciiLower, map_asciiLower_shownDigits, Hex.length_encodeChars, a.length_bytes]
  rw [toList_checksummed, List.length_cons, List.length_cons, hdigits]

/-- The text of an address is that of no other. -/
theorem checksummed_injective : Function.Injective checksummed := by
  intro a a' h
  have hdigits : a.shownDigits = a'.shownDigits := by
    have hlist := congrArg String.toList h
    rw [toList_checksummed, toList_checksummed] at hlist
    exact (List.cons.inj (List.cons.inj hlist).2).2
  apply FixedBytes.ext
  apply Hex.encodeChars_injective
  rw [← map_asciiLower_shownDigits, hdigits, map_asciiLower_shownDigits]

end Address

end OperatorDaemon
