import Mathlib.Data.Nat.Digits.Defs
import OperatorDaemon.Crypto.Word
import OperatorDaemon.Proofs.Text.Hex
import OperatorDaemon.Proofs.Text.Utf8

/-!
# Hexadecimal digits

A text is read as bytes if and only if its digits, made small, are those that the bytes are written with. Then the
digits spell the number that the bytes stand for.
-/

namespace OperatorDaemon

/-! ### Values of digits -/

/-- The number of some digits, read on top of another. -/
lemma ofDigits_reverse (radix : Nat) (ds : List Nat) :
    Nat.ofDigits radix ds.reverse = ds.foldl (fun value digit => value * radix + digit) 0 := by
  rw [Nat.ofDigits_eq_foldr, List.foldr_reverse]
  congr 1
  funext value digit
  rw [Nat.add_comm, Nat.mul_comm]
  rfl

lemma toNat_le_of_isAsciiDigit {c : Char} (h : isAsciiDigit c) : c.toNat ≤ 57 := by
  rw [isAsciiDigit, Bool.and_eq_true, decide_eq_true_iff, decide_eq_true_iff] at h
  exact UInt32.le_iff_toNat_le.mp h.2

lemma toNat_le_of_hexValue? {c : Char} {n : Nat} (h : hexValue? c = some n) : c.toNat ≤ 102 := by
  unfold hexValue? at h
  split_ifs at h with hdigit hlower hupper
  · exact (toNat_le_of_isAsciiDigit hdigit).trans (by decide)
  · exact UInt32.le_iff_toNat_le.mp hlower.2
  · exact (UInt32.le_iff_toNat_le.mp hupper.2).trans (by decide)

/-- A digit is a small one of the same value, but for its case. -/
lemma hexValue?_asciiLower (c : Char) : hexValue? (asciiLower c) = hexValue? c := by
  by_cases hcapital : 'A' ≤ c ∧ c ≤ 'Z'
  · have hcapitals : ∀ k < 91, hexValue? (asciiLower (Char.ofNat k)) = hexValue? (Char.ofNat k) := by decide
    have hle : c.toNat ≤ 90 := UInt32.le_iff_toNat_le.mp hcapital.2
    simpa using hcapitals c.toNat (by omega)
  · rw [asciiLower, if_neg hcapital]

lemma hexValue?_eq_some {c : Char} {n : Nat} : hexValue? c = some n ↔ n < 16 ∧ asciiLower c = hexDigit n := by
  constructor
  · intro h
    have hdigits : ∀ k < 103, ∀ n ∈ hexValue? (Char.ofNat k),
        n < 16 ∧ asciiLower (Char.ofNat k) = hexDigit n := by decide
    have hle := toNat_le_of_hexValue? h
    simpa using hdigits c.toNat (by omega) n (by simpa using h)
  · rintro ⟨hn, hlower⟩
    rw [← hexValue?_asciiLower, hlower, hexValue?_hexDigit n hn]

namespace Hex

/-! ### Bytes of digits -/

variable {cs : List Char} {bs : List UInt8} {n : Nat}

lemma digit_of_ascii {c : Char} (h : c.toNat < 0x80) : digit (UInt8.ofNat c.toNat) = hexValue? c := by
  have hbyte : (UInt8.ofNat c.toNat).toNat = c.toNat :=
    UInt8.toNat_ofNat_of_lt (show c.toNat < 0x100 by omega)
  rw [digit, hbyte, Char.ofNat_toNat]

lemma digit_eq_none {b : UInt8} (h : 0x80 ≤ b.toNat) : digit b = none := by
  have hlt : b.toNat < 0x100 := b.toNat_lt
  have hvalid : b.toNat.isValidChar := .inl (by omega)
  have hchar : (Char.ofNat b.toNat).toNat = b.toNat := by
    rw [Char.ofNat, dif_pos hvalid]
    rfl
  cases hdigit : digit b with
  | none => rfl
  | some value =>
    have hle := toNat_le_of_hexValue? hdigit
    omega

/-- Digits are the characters whose bytes are digits. -/
lemma forall_mem_encode_isSome_digit :
    (∀ b ∈ Utf8.encode cs, (digit b).isSome) ↔ ∀ c ∈ cs, (hexValue? c).isSome := by
  induction cs with
  | nil => simp
  | cons c cs ih =>
    rw [Utf8.encode_cons, List.forall_mem_append, ih, List.forall_mem_cons]
    by_cases hascii : c.toNat < 0x80
    · rw [Utf8.encodeChar_of_ascii hascii, List.forall_mem_singleton, digit_of_ascii hascii]
    · obtain ⟨b, rest, hbytes, hb⟩ := Utf8.exists_encodeChar_eq_cons (Nat.le_of_not_lt hascii)
      have hnone : hexValue? c = none := by
        cases hvalue : hexValue? c with
        | none => rfl
        | some n => exact absurd (toNat_le_of_hexValue? hvalue) (by omega)
      simp [hbytes, digit_eq_none hb, hnone]

/-- The bytes of digits that come in pairs are written as these digits, made small. -/
lemma encodeChars_pairs : ∀ {cs : List Char}, (∀ c ∈ cs, (hexValue? c).isSome) → cs.length % 2 = 0 →
    encodeChars (pairs (Utf8.encode cs)) = cs.map asciiLower
  | [], _, _ => rfl
  | [_], _, heven => by simp at heven
  | high :: low :: cs, hdigits, heven => by
    simp only [List.forall_mem_cons, Option.isSome_iff_exists] at hdigits
    obtain ⟨⟨h, hhigh⟩, ⟨l, hlow⟩, hrest⟩ := hdigits
    obtain ⟨hh, hhigh'⟩ := hexValue?_eq_some.mp hhigh
    obtain ⟨hl, hlow'⟩ := hexValue?_eq_some.mp hlow
    have hhighAscii : high.toNat < 0x80 := (toNat_le_of_hexValue? hhigh).trans_lt (by decide)
    have hlowAscii : low.toNat < 0x80 := (toNat_le_of_hexValue? hlow).trans_lt (by decide)
    have hbyte : (UInt8.ofNat (h * 16 + l)).toNat = h * 16 + l :=
      UInt8.toNat_ofNat_of_lt (show _ < 0x100 by omega)
    have ih : encodeChars (pairs (Utf8.encode cs)) = cs.map asciiLower :=
      encodeChars_pairs (fun c hc => Option.isSome_iff_exists.mpr (hrest c hc))
        (by rw [List.length_cons, List.length_cons] at heven; omega)
    rw [Utf8.encode_cons, Utf8.encode_cons, Utf8.encodeChar_of_ascii hhighAscii,
      Utf8.encodeChar_of_ascii hlowAscii, List.singleton_append, List.singleton_append, pairs,
      digit_of_ascii hhighAscii, digit_of_ascii hlowAscii, hhigh, hlow, Option.getD_some, Option.getD_some,
      encodeChars, hbyte, ih, List.map_cons, List.map_cons, hhigh', hlow']
    rw [show (h * 16 + l) / 16 = h by omega, show (h * 16 + l) % 16 = l by omega]

lemma firstFault_eq_none {index : Nat} {digits : List UInt8} :
    firstFault index digits = none ↔ ∀ b ∈ digits, (digit b).isSome := by
  induction digits generalizing index with
  | nil => simp [firstFault]
  | cons b digits ih =>
    rw [firstFault, List.forall_mem_cons]
    split_ifs with hb
    · simp [hb, ih]
    · simp [hb]

/-- What bytes are written as consists of digits, be they small or not. -/
lemma isSome_hexValue?_of_map (h : cs.map asciiLower = encodeChars bs) : ∀ c ∈ cs, (hexValue? c).isSome := by
  intro c hc
  have hlower : asciiLower c ∈ encodeChars bs := h ▸ List.mem_map_of_mem hc
  obtain ⟨n, hn, hdigit⟩ := exists_hexDigit_of_mem hlower
  rw [hexValue?_eq_some.mpr ⟨hn, hdigit⟩]
  rfl

lemma length_of_map (h : cs.map asciiLower = encodeChars bs) : cs.length = 2 * bs.length := by
  rw [← length_encodeChars, ← h, List.length_map]

/-- Bytes are written in small digits. -/
lemma map_asciiLower_encodeChars (bs : List UInt8) : (encodeChars bs).map asciiLower = encodeChars bs := by
  have hsmall : ∀ n < 16, asciiLower (hexDigit n) = hexDigit n := by decide
  conv_rhs => rw [← List.map_id (encodeChars bs)]
  refine List.map_congr_left fun c hc => ?_
  obtain ⟨n, hn, rfl⟩ := exists_hexDigit_of_mem hc
  exact hsmall n hn

/-- Digits are read as the bytes that are written as these digits, made small. -/
lemma decodeDigits_eq_ok : decodeDigits (Utf8.encode cs) = .ok bs ↔ cs.map asciiLower = encodeChars bs := by
  have hlength (h : ∀ c ∈ cs, (hexValue? c).isSome) : (Utf8.encode cs).length = cs.length := by
    refine Utf8.length_encode_of_ascii fun c hc => ?_
    obtain ⟨n, hn⟩ := Option.isSome_iff_exists.mp (h c hc)
    exact (toNat_le_of_hexValue? hn).trans_lt (by decide)
  constructor
  · intro h
    unfold decodeDigits at h
    split_ifs at h with hodd
    split at h
    · cases h
    · rename_i hfault
      have hdigits := forall_mem_encode_isSome_digit.mp (firstFault_eq_none.mp hfault)
      rw [hlength hdigits] at hodd
      rw [← Except.ok.inj h, encodeChars_pairs hdigits (by omega)]
  · intro h
    have hdigits := isSome_hexValue?_of_map h
    have heven : cs.length % 2 = 0 := by rw [length_of_map h, Nat.mul_mod_right]
    have hpairs : pairs (Utf8.encode cs) = bs :=
      encodeChars_injective ((encodeChars_pairs hdigits heven).trans h)
    rw [decodeDigits, hlength hdigits, if_neg (by omega),
      firstFault_eq_none.mpr (forall_mem_encode_isSome_digit.mpr hdigits), hpairs]

/-! ### Marks -/

/-- Digits behind at most one mark. -/
inductive IsMarked : List Char → List Char → Prop where
  | bare (digits : List Char) : IsMarked digits digits
  | marked {mark : Char} (h : mark = 'x' ∨ mark = 'X') (digits : List Char) :
      IsMarked ('0' :: mark :: digits) digits

lemma dropMark_of_digits {digits : List UInt8} (h : ∀ b ∈ digits, (digit b).isSome) :
    dropMark digits = digits := by
  unfold dropMark
  split
  · exact absurd (h 0x78 (by simp)) (by decide)
  · exact absurd (h 0x58 (by simp)) (by decide)
  · rfl

/-- A text is read as bytes if they are written as the digits behind its mark, made small. -/
theorem decode_ofList_eq_ok :
    decode (String.ofList cs) = .ok bs ↔
      ∃ digits, IsMarked cs digits ∧ digits.map asciiLower = encodeChars bs := by
  rw [decode, Utf8.bytes, String.toList_ofList]
  constructor
  · intro h
    unfold dropMark at h
    split at h
    · rename_i rest hbytes
      obtain ⟨cs, rfl, hcs⟩ := Utf8.exists_of_encode_eq_cons (c := '0') (by decide) hbytes
      obtain ⟨digits, rfl, rfl⟩ := Utf8.exists_of_encode_eq_cons (c := 'x') (by decide) hcs
      exact ⟨digits, .marked (.inl rfl) digits, decodeDigits_eq_ok.mp h⟩
    · rename_i rest hbytes
      obtain ⟨cs, rfl, hcs⟩ := Utf8.exists_of_encode_eq_cons (c := '0') (by decide) hbytes
      obtain ⟨digits, rfl, rfl⟩ := Utf8.exists_of_encode_eq_cons (c := 'X') (by decide) hcs
      exact ⟨digits, .marked (.inr rfl) digits, decodeDigits_eq_ok.mp h⟩
    · exact ⟨cs, .bare cs, decodeDigits_eq_ok.mp h⟩
  · rintro ⟨digits, hmarked, h⟩
    cases hmarked with
    | bare =>
      rw [dropMark_of_digits (forall_mem_encode_isSome_digit.mpr (isSome_hexValue?_of_map h))]
      exact decodeDigits_eq_ok.mpr h
    | marked hmark =>
      obtain rfl | rfl := hmark
      · exact decodeDigits_eq_ok.mpr h
      · exact decodeDigits_eq_ok.mpr h

/-! ### Numbers -/

/-- Digits spell a number, the greatest first. -/
def Spells (cs : List Char) (n : Nat) : Prop :=
  ∃ ds : List Nat, cs.map hexValue? = ds.map some ∧ Nat.ofDigits 16 ds.reverse = n

/-- At most one number is spelled. -/
lemma Spells.unique {m : Nat} (h : Spells cs m) (h' : Spells cs n) : m = n := by
  obtain ⟨ds, hds, rfl⟩ := h
  obtain ⟨ds', hds', rfl⟩ := h'
  have hsame : ds.map some = ds'.map some := hds.symm.trans hds'
  rw [(List.map_inj_right fun _ _ => Option.some.inj).mp hsame]

/-- Only digits spell a number. -/
lemma Spells.isSome_hexValue? (h : Spells cs n) : ∀ c ∈ cs, (hexValue? c).isSome := by
  intro c hc
  obtain ⟨ds, hds, -⟩ := h
  have hmem : hexValue? c ∈ ds.map some := hds ▸ List.mem_map_of_mem hc
  obtain ⟨d, -, hd⟩ := List.mem_map.mp hmem
  rw [← hd]
  rfl

/-- The values of the digits of some bytes. -/
def halves (bs : List UInt8) : List Nat :=
  bs.flatMap fun b => [b.toNat / 16, b.toNat % 16]

lemma map_hexValue?_encodeChars (bs : List UInt8) : (encodeChars bs).map hexValue? = (halves bs).map some := by
  induction bs with
  | nil => rfl
  | cons b bs ih =>
    have hb := b.toNat_lt
    rw [encodeChars, List.map_cons, List.map_cons, hexValue?_hexDigit _ (by omega),
      hexValue?_hexDigit _ (by omega), ih]
    rfl

lemma foldl_halves (bs : List UInt8) (value : Nat) :
    (halves bs).foldl (fun value digit => value * 16 + digit) value =
      bs.foldl (fun value b => value * 256 + b.toNat) value := by
  induction bs generalizing value with
  | nil => rfl
  | cons b bs ih =>
    rw [List.foldl_cons, ← ih, halves, List.flatMap_cons, List.cons_append, List.singleton_append,
      List.foldl_cons, List.foldl_cons, ← halves]
    congr 1
    omega

/-- What bytes are written as spells the number that they stand for. -/
lemma spells_of_map (h : cs.map asciiLower = encodeChars bs) : Spells cs (natOfBytes bs) := by
  refine ⟨halves bs, ?_, ?_⟩
  · rw [← map_hexValue?_encodeChars, ← h, List.map_map]
    exact List.map_congr_left fun c _ => (hexValue?_asciiLower c).symm
  · rw [ofDigits_reverse, foldl_halves, natOfBytes]

/-- Digits that come in pairs and spell a number are what bytes for this number are written as. -/
lemma exists_map_of_spells (h : Spells cs n) (heven : cs.length % 2 = 0) :
    ∃ bs, cs.map asciiLower = encodeChars bs ∧ natOfBytes bs = n := by
  have hpairs := (encodeChars_pairs h.isSome_hexValue? heven).symm
  exact ⟨_, hpairs, (spells_of_map hpairs).unique h⟩

end Hex

end OperatorDaemon
