import OperatorDaemon.Ethereum.Salt
import OperatorDaemon.Proofs.Text.Digits
import OperatorDaemon.Proofs.Text.Numeral

/-!
# The numbers that salts are read as

A text is read as a salt if and only if it denotes a number of 256 bits, and then the salt is that number. More
texts denote numbers than those in plain decimal digits, or in hexadecimal digits behind `0x`.
-/

namespace OperatorDaemon.Salt

/-! ### Texts that denote numbers -/

/-- Characters spell a number if they are its digits, the greatest first, but for underscores. No digits at all
spell zero. -/
def Spells (radix : Nat) (cs : List Char) (n : Nat) : Prop :=
  ∃ ds : List Nat, (cs.filter (· != '_')).map (digit? radix) = ds.map some ∧
    Nat.ofDigits radix ds.reverse = n

/-- The radix that a mark behind a zero stands for. -/
def markedRadix? : Char → Option Nat
  | 'x' | 'X' => some 16
  | 'o' | 'O' => some 8
  | 'b' | 'B' => some 2
  | _ => none

/-- A text denotes the number that is spelled behind a mark in the radix of the mark, or without a mark in
decimal digits. -/
inductive Denotes : List Char → Nat → Prop where
  | marked {mark : Char} {radix : Nat} {cs : List Char} {n : Nat} (hmark : markedRadix? mark = some radix)
      (h : Spells radix cs n) : Denotes ('0' :: mark :: cs) n
  | decimal {cs : List Char} {n : Nat} (h : Spells 10 cs n) : Denotes cs n

/-- A text is in plain decimal digits, or in hexadecimal digits behind `0x`. There is at least one digit. -/
inductive IsPlain : List Char → Prop where
  | decimal {cs : List Char} (hne : cs ≠ []) (h : ∀ c ∈ cs, isAsciiDigit c) : IsPlain cs
  | hexadecimal {cs : List Char} (hne : cs ≠ []) (h : ∀ c ∈ cs, (hexValue? c).isSome) :
      IsPlain ('0' :: 'x' :: cs)

/-! ### Reading digits -/

section

variable {radix n : Nat} {cs : List Char}

/-- Reading succeeds with the number of the digits. No number on the way is greater than the last. -/
lemma parseDigits_eq_ok (hradix : 0 < radix) {salt result : Salt} :
    parseDigits radix salt cs = .ok result ↔
      ∃ ds : List Nat, (cs.filter (· != '_')).map (digit? radix) = ds.map some ∧
        ds.foldl (fun value digit => value * radix + digit) salt.value = result.value := by
  induction cs generalizing salt with
  | nil =>
    obtain ⟨value, hvalue⟩ := salt
    obtain ⟨value', hvalue'⟩ := result
    simp [parseDigits, List.map_eq_nil_iff, eq_comm (a := ([] : List (Option Nat)))]
  | cons c cs ih =>
    by_cases hskip : c = '_'
    · simp only [parseDigits, hskip, if_true, bne_self_eq_false, Bool.false_eq_true, not_false_eq_true,
        List.filter_cons_of_neg, ih]
    · have hfilter : (c :: cs).filter (· != '_') = c :: cs.filter (· != '_') :=
        List.filter_cons_of_pos (by simpa using hskip)
      rw [parseDigits, if_neg hskip, hfilter, List.map_cons]
      cases hdigit : digit? radix c with
      | none =>
        refine iff_of_false (by simp) ?_
        rintro ⟨_ | ⟨digit, ds⟩, hds, -⟩ <;> simp at hds
      | some digit =>
        by_cases hfits : salt.value * radix + digit < saltLimit
        · simp only [hfits, dif_pos, ih]
          constructor
          · rintro ⟨ds, hds, hvalue⟩
            exact ⟨digit :: ds, by rw [hds, List.map_cons], hvalue⟩
          · rintro ⟨_ | ⟨digit', ds⟩, hds, hvalue⟩
            · cases hds
            · obtain ⟨hhead, htail⟩ := List.cons_eq_cons.mp hds
              cases hhead
              exact ⟨ds, htail, hvalue⟩
        · simp only [hfits, dif_neg, not_false_eq_true]
          refine iff_of_false (by simp) ?_
          rintro ⟨_ | ⟨digit', ds⟩, hds, hvalue⟩
          · cases hds
          · obtain ⟨hhead, -⟩ := List.cons_eq_cons.mp hds
            cases hhead
            have hle := le_foldl_digits hradix ds (salt.value * radix + digit)
            rw [List.foldl_cons] at hvalue
            have hlt := result.value_lt
            omega

lemma parseDigits_eq_ok_iff_spells (hradix : 0 < radix) {salt : Salt} :
    parseDigits radix default cs = .ok salt ↔ Spells radix cs salt.value := by
  rw [parseDigits_eq_ok hradix, Spells]
  simp only [ofDigits_reverse]
  rfl

/-- What is spelled consists of digits and underscores. -/
lemma Spells.isSome_digit? (h : Spells radix cs n) {c : Char} (hc : c ∈ cs) (hskip : c ≠ '_') :
    (digit? radix c).isSome := by
  obtain ⟨ds, hds, -⟩ := h
  have hmem : digit? radix c ∈ ds.map some := by
    rw [← hds]
    exact List.mem_map_of_mem (List.mem_filter.mpr ⟨hc, by simpa using hskip⟩)
  obtain ⟨digit, -, hdigit⟩ := List.mem_map.mp hmem
  rw [← hdigit]
  rfl

/-- At most one number is spelled. -/
lemma Spells.unique {m : Nat} (h : Spells radix cs n) (h' : Spells radix cs m) : n = m := by
  obtain ⟨ds, hds, rfl⟩ := h
  obtain ⟨ds', hds', rfl⟩ := h'
  have hsame : ds.map some = ds'.map some := hds.symm.trans hds'
  have hdigits : ds = ds' := (List.map_inj_right fun _ _ => Option.some.inj).mp hsame
  rw [hdigits]

/-- Digits spell a number. -/
lemma exists_spells (h : ∀ c ∈ cs, (digit? radix c).isSome) (hskip : digit? radix '_' = none) :
    ∃ n, Spells radix cs n := by
  have hfilter : cs.filter (· != '_') = cs := by
    refine List.filter_eq_self.mpr fun c hc => ?_
    rw [bne_iff_ne]
    rintro rfl
    simpa [hskip] using h _ hc
  refine ⟨_, cs.map fun c => (digit? radix c).getD 0, ?_, rfl⟩
  rw [hfilter, List.map_map]
  refine List.map_congr_left fun c hc => ?_
  obtain ⟨digit, hdigit⟩ := Option.isSome_iff_exists.mp (h c hc)
  simp [hdigit]

end

/-! ### Reading texts -/

/-- A mark is neither a decimal digit nor an underscore. -/
lemma digit?_of_markedRadix? {mark : Char} {radix : Nat} (h : markedRadix? mark = some radix) :
    digit? 10 mark = none ∧ mark ≠ '_' := by
  unfold markedRadix? at h
  split at h <;> first | decide | cases h

/-- Behind a mark a text denotes what is spelled in the radix of the mark. -/
lemma denotes_of_mark {mark : Char} {radix : Nat} (hmark : markedRadix? mark = some radix) {cs : List Char}
    {n : Nat} : Denotes ('0' :: mark :: cs) n ↔ Spells radix cs n := by
  refine ⟨fun h => ?_, .marked hmark⟩
  cases h with
  | marked hmark' h =>
    rw [hmark] at hmark'
    cases hmark'
    exact h
  | decimal h =>
    obtain ⟨hdigit, hskip⟩ := digit?_of_markedRadix? hmark
    have hsome := h.isSome_digit? (c := mark) (by simp) hskip
    rw [hdigit] at hsome
    cases hsome

/-- At most one number is denoted. -/
lemma Denotes.unique {cs : List Char} {m n : Nat} (h : Denotes cs m) (h' : Denotes cs n) : m = n := by
  cases h with
  | marked hmark h => exact h.unique ((denotes_of_mark hmark).mp h')
  | decimal h =>
    cases h' with
    | marked hmark h' => exact ((denotes_of_mark hmark).mp (.decimal h)).unique h'
    | decimal h' => exact h.unique h'

/-- A text is read as a salt if and only if it denotes the number. -/
theorem parse_eq_ok {text : String} {salt : Salt} :
    parse text = .ok salt ↔ Denotes text.toList salt.value := by
  unfold parse parseChars
  split
  case h_7 hx hX ho hO hb hB =>
    rw [parseDigits_eq_ok_iff_spells (by decide)]
    refine ⟨.decimal, fun h => ?_⟩
    generalize hcs : text.toList = cs at *
    cases h with
    | marked hmark h =>
      unfold markedRadix? at hmark
      split at hmark
      · exact absurd rfl (hx _)
      · exact absurd rfl (hX _)
      · exact absurd rfl (ho _)
      · exact absurd rfl (hO _)
      · exact absurd rfl (hb _)
      · exact absurd rfl (hB _)
      · cases hmark
    | decimal h => exact h
  all_goals
    rename_i hcs
    rw [parseDigits_eq_ok_iff_spells (by decide), hcs, denotes_of_mark rfl]

/-- Whatever is plain denotes a number. -/
lemma IsPlain.exists_denotes {cs : List Char} (h : IsPlain cs) : ∃ n, Denotes cs n := by
  cases h with
  | decimal hne h =>
    have hdigits : ∀ c ∈ cs, (digit? 10 c).isSome := by
      intro c hc
      have hle := toNat_le_of_isAsciiDigit (h c hc)
      have hlt : c.toNat - 48 < 10 := by omega
      simp [digit?, hexValue?, h c hc, hlt]
    obtain ⟨n, hn⟩ := exists_spells hdigits (by decide)
    exact ⟨n, .decimal hn⟩
  | @hexadecimal cs hne h =>
    have hdigits : ∀ c ∈ cs, (digit? 16 c).isSome := by
      intro c hc
      obtain ⟨value, hvalue⟩ := Option.isSome_iff_exists.mp (h c hc)
      simp [digit?, hvalue, (hexValue?_eq_some.mp hvalue).1]
    obtain ⟨n, hn⟩ := exists_spells hdigits (by decide)
    exact ⟨n, .marked rfl hn⟩

end OperatorDaemon.Salt
