import OperatorDaemon.Proofs.Text.Utf8
import OperatorDaemon.Text.Percent

/-!
# Undoing escapes

What has been percent-encoded is read back, provided that the percent sign is among what is escaped. An escaped
character does not occur in what has been encoded, unless escapes are made of it.
-/

namespace OperatorDaemon.Percent

lemma encodeChar_hexDigitUpper :
    ∀ n < 16, Utf8.encodeChar (hexDigitUpper n) = [UInt8.ofNat (hexDigitUpper n).toNat] := by
  decide

lemma digit?_hexDigitUpper : ∀ n < 16, digit? (UInt8.ofNat (hexDigitUpper n).toNat) = some n := by
  decide

/-- A byte that is no percent sign stands for itself. -/
lemma decode_cons {b : UInt8} (h : b ≠ 0x25) (rest : List UInt8) :
    decode (b :: rest) = b :: decode rest := by
  cases rest with
  | nil => simp [decode]
  | cons high rest =>
    cases rest with
    | nil => simp [decode]
    | cons low rest => rw [decode.eq_2 _ _ fun _ _ _ hb _ => h hb]

/-- An escaped byte is read back. -/
lemma decode_encodeByte (b : UInt8) (rest : List UInt8) :
    decode (Utf8.encode (encodeByte b) ++ rest) = b :: decode rest := by
  have hb := b.toNat_lt
  have hbytes : Utf8.encode (encodeByte b) ++ rest =
      0x25 :: UInt8.ofNat (hexDigitUpper (b.toNat / 16)).toNat ::
        UInt8.ofNat (hexDigitUpper (b.toNat % 16)).toNat :: rest := by
    rw [encodeByte, Utf8.encode_cons, Utf8.encode_cons, Utf8.encode_cons,
      encodeChar_hexDigitUpper _ (by omega), encodeChar_hexDigitUpper _ (by omega)]
    rfl
  rw [hbytes, decode, digit?_hexDigitUpper _ (by omega), digit?_hexDigitUpper _ (by omega)]
  dsimp only
  rw [Nat.div_add_mod', UInt8.ofNat_toNat]

lemma decode_flatMap_encodeByte (bs rest : List UInt8) :
    decode (Utf8.encode (bs.flatMap encodeByte) ++ rest) = bs ++ decode rest := by
  induction bs with
  | nil => rfl
  | cons b bs ih =>
    rw [List.flatMap_cons, Utf8.encode_append, List.append_assoc, decode_encodeByte, ih, List.cons_append]

variable {escaped : Char → Bool}

/-- A character is read back, whatever comes behind it. -/
lemma decode_encodeChar (hpercent : escaped '%') (c : Char) (rest : List UInt8) :
    decode (Utf8.encode (encodeChar escaped c) ++ rest) = Utf8.encodeChar c ++ decode rest := by
  rw [encodeChar]
  split_ifs with hplain
  · simp only [Bool.and_eq_true, decide_eq_true_eq, Bool.not_eq_true'] at hplain
    obtain ⟨hascii, hkept⟩ := hplain
    have hbyte : UInt8.ofNat c.toNat ≠ 0x25 := by
      intro h
      have hvalue : c.toNat = '%'.toNat := by
        rw [← UInt8.toNat_ofNat_of_lt' (show c.toNat < 0x100 by omega), h]
        rfl
      rw [Char.toNat_inj.mp hvalue, hpercent] at hkept
      cases hkept
    rw [Utf8.encode_cons, Utf8.encode_nil, List.append_nil, Utf8.encodeChar_of_ascii hascii,
      List.singleton_append, decode_cons hbyte, List.singleton_append]
  · exact decode_flatMap_encodeByte _ rest

/-- What has been encoded is read back. -/
theorem decode_encode (hpercent : escaped '%') (cs : List Char) :
    decode (Utf8.encode (encode escaped cs)) = Utf8.encode cs := by
  induction cs with
  | nil => rfl
  | cons c cs ih =>
    rw [encode, List.flatMap_cons, Utf8.encode_append, decode_encodeChar hpercent, ← encode, ih,
      Utf8.encode_cons]

lemma mem_encodeByte {c : Char} {b : UInt8} (h : c ∈ encodeByte b) :
    c = '%' ∨ ∃ n < 16, c = hexDigitUpper n := by
  have hb := b.toNat_lt
  rw [encodeByte, List.mem_cons, List.mem_cons, List.mem_singleton] at h
  obtain rfl | rfl | rfl := h
  · exact .inl rfl
  · exact .inr ⟨b.toNat / 16, by omega, rfl⟩
  · exact .inr ⟨b.toNat % 16, by omega, rfl⟩

/-- A character that is escaped does not occur, unless escapes are made of it. -/
lemma not_mem_encode {c : Char} (hc : escaped c) (hpercent : c ≠ '%')
    (hdigit : ∀ n < 16, c ≠ hexDigitUpper n) (cs : List Char) : c ∉ encode escaped cs := by
  intro hmem
  obtain ⟨d, -, hd⟩ := List.mem_flatMap.mp hmem
  rw [encodeChar] at hd
  split_ifs at hd with hplain
  · rw [List.mem_singleton.mp hd] at hc
    simp [hc] at hplain
  · obtain ⟨b, -, hb⟩ := List.mem_flatMap.mp hd
    obtain h | ⟨n, hn, h⟩ := mem_encodeByte hb
    · exact hpercent h
    · exact hdigit n hn h

/-- What need not be escaped is encoded as itself. -/
lemma encode_eq_self {cs : List Char} (h : ∀ c ∈ cs, c.toNat < 0x80 ∧ escaped c = false) :
    encode escaped cs = cs := by
  induction cs with
  | nil => rfl
  | cons c cs ih =>
    obtain ⟨⟨hascii, hkept⟩, hcs⟩ := List.forall_mem_cons.mp h
    rw [encode, List.flatMap_cons, ← encode, ih hcs]
    simp [encodeChar, hascii, hkept]

end OperatorDaemon.Percent
