import Mathlib.Algebra.Group.Nat.Defs
import Mathlib.Tactic.Common
import OperatorDaemon.Ethereum.FixedBytes
import OperatorDaemon.Ethereum.Salt

/-!
# Reading what was written in hexadecimal

Byte strings of a fixed length and salts are read from the texts they are written as.
-/

namespace OperatorDaemon

namespace Hex

lemma encodeChar_hexDigit : ∀ n < 16, Utf8.encodeChar (hexDigit n) = [UInt8.ofNat (hexDigit n).toNat] := by
  decide

lemma digit_hexDigit : ∀ n < 16, digit (UInt8.ofNat (hexDigit n).toNat) = some n := by
  decide

/-- The digits of some bytes, each as one byte. -/
lemma encode_encodeChars_cons (b : UInt8) (bs : List UInt8) :
    Utf8.encode (encodeChars (b :: bs)) =
      UInt8.ofNat (hexDigit (b.toNat / 16)).toNat :: UInt8.ofNat (hexDigit (b.toNat % 16)).toNat ::
        Utf8.encode (encodeChars bs) := by
  have hb := b.toNat_lt
  rw [encodeChars, Utf8.encode_cons, Utf8.encode_cons, encodeChar_hexDigit _ (by omega),
    encodeChar_hexDigit _ (by omega)]
  rfl

lemma length_encode_encodeChars (bs : List UInt8) :
    (Utf8.encode (encodeChars bs)).length = 2 * bs.length := by
  induction bs with
  | nil => rfl
  | cons b bs ih =>
    rw [encode_encodeChars_cons, List.length_cons, List.length_cons, ih, List.length_cons]
    omega

lemma firstFault_encode_encodeChars (index : Nat) (bs : List UInt8) :
    firstFault index (Utf8.encode (encodeChars bs)) = none := by
  induction bs generalizing index with
  | nil => rfl
  | cons b bs ih =>
    have hb := b.toNat_lt
    rw [encode_encodeChars_cons, firstFault, firstFault, digit_hexDigit _ (by omega),
      digit_hexDigit _ (by omega), ih]
    rfl

lemma pairs_encode_encodeChars (bs : List UInt8) :
    pairs (Utf8.encode (encodeChars bs)) = bs := by
  induction bs with
  | nil => rfl
  | cons b bs ih =>
    have hb := b.toNat_lt
    rw [encode_encodeChars_cons, pairs, digit_hexDigit _ (by omega), digit_hexDigit _ (by omega), ih,
      Option.getD_some, Option.getD_some, Nat.mul_comm, Nat.div_add_mod, UInt8.ofNat_toNat]

lemma encodeChars_injective : Function.Injective encodeChars := by
  intro bs bs' h
  rw [← pairs_encode_encodeChars bs, h, pairs_encode_encodeChars]

lemma length_encodeChars (bs : List UInt8) : (encodeChars bs).length = 2 * bs.length := by
  induction bs with
  | nil => rfl
  | cons b bs ih =>
    simp only [encodeChars, List.length_cons, ih]
    omega

lemma exists_hexDigit_of_mem {c : Char} {bs : List UInt8} (h : c ∈ encodeChars bs) :
    ∃ n < 16, c = hexDigit n := by
  induction bs with
  | nil => cases h
  | cons b bs ih =>
    have hb := b.toNat_lt
    rw [encodeChars, List.mem_cons, List.mem_cons] at h
    obtain rfl | rfl | h := h
    · exact ⟨b.toNat / 16, by omega, rfl⟩
    · exact ⟨b.toNat % 16, by omega, rfl⟩
    · exact ih h

lemma dropMark_encodePrefixed (bs : List UInt8) :
    dropMark (Utf8.bytes (encodePrefixed bs)) = Utf8.encode (encodeChars bs) := by
  rw [Utf8.bytes, encodePrefixed, String.toList_ofList]
  rfl

/-- Bytes are read from their hexadecimal text. -/
theorem decodeExactly_encodePrefixed (bs : List UInt8) :
    decodeExactly bs.length (encodePrefixed bs) = .ok bs := by
  simp only [decodeExactly, dropMark_encodePrefixed, length_encode_encodeChars,
    firstFault_encode_encodeChars, pairs_encode_encodeChars]
  rw [if_neg (by omega), if_neg (by simp)]

end Hex

/-- A byte string is read from its text. -/
@[simp] theorem FixedBytes.parse_hex {n : Nat} (b : FixedBytes n) : parse n b.hex = .ok b := by
  obtain ⟨bs, rfl⟩ := b
  have hread := Hex.decodeExactly_encodePrefixed bs
  unfold parse hex
  split
  · rename_i hbs
    rw [hread] at hbs
    cases hbs
    rfl
  · rename_i hbs
    rw [hread] at hbs
    cases hbs

namespace Salt

lemma parseDigits_append (radix : Nat) (salt : Salt) (cs cs' : List Char) :
    parseDigits radix salt (cs ++ cs') =
      match parseDigits radix salt cs with
      | .ok salt => parseDigits radix salt cs'
      | .error fault => .error fault := by
  induction cs generalizing salt with
  | nil => rfl
  | cons c cs ih =>
    rw [List.cons_append, parseDigits, parseDigits]
    split
    · exact ih salt
    · split
      · rfl
      · split
        · exact ih _
        · rfl

lemma digit?_hexDigit : ∀ n < 16, digit? 16 (hexDigit n) = some n := by
  decide

lemma hexDigit_ne_underscore : ∀ n < 16, hexDigit n ≠ '_' := by
  decide

/-- One more digit is read on top of a salt. -/
lemma parseDigits_hexDigit (salt : Salt) {n : Nat} (hn : n < 16) (h : salt.value * 16 + n < saltLimit) :
    parseDigits 16 salt [hexDigit n] = .ok ⟨salt.value * 16 + n, h⟩ := by
  rw [parseDigits, if_neg (hexDigit_ne_underscore n hn), digit?_hexDigit n hn]
  simp only [h, dif_pos, parseDigits]

/-- A number is read from its digits. -/
lemma parseDigits_digits (places : Nat) {n : Nat} (hplaces : n < 16 ^ places) (hn : n < saltLimit) :
    parseDigits 16 default (digits places n) = .ok ⟨n, hn⟩ := by
  induction places generalizing n with
  | zero =>
    obtain rfl : n = 0 := by simpa using hplaces
    rfl
  | succ places ih =>
    rw [digits]
    split
    · rename_i hdigit
      have hread := parseDigits_hexDigit default hdigit (by simpa [default] using hn)
      rw [hread]
      simp [default]
    · have hread := ih (n := n / 16) (by rw [Nat.pow_succ] at hplaces; omega) (by omega)
      rw [parseDigits_append, hread]
      dsimp only
      rw [parseDigits_hexDigit ⟨n / 16, by omega⟩ (Nat.mod_lt n (by decide)) (by dsimp only; omega)]
      congr 2
      dsimp only
      omega

/-- A salt is read from its text. -/
@[simp] theorem parse_hex (s : Salt) : parse s.hex = .ok s := by
  rw [parse, hex, String.toList_ofList]
  exact parseDigits_digits 64 s.value_lt s.value_lt

end Salt

end OperatorDaemon
