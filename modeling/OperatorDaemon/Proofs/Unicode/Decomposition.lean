import OperatorDaemon.Proofs.Unicode.Table
import OperatorDaemon.Unicode.Normalization

/-!
# Full decompositions

No character of a decomposition can be taken apart further, and a character that is composed of two decomposes into
what these decompose into. Both are checked for every run and entry of the tables. What characters of some set
decompose into is computed for all of them at once, so that such checks are of sets as well.
-/

namespace OperatorDaemon.Unicode

/-- A character is simple if it decomposes into nothing but itself. -/
def IsSimple (c : Char) : Prop := decompose c = [c]

lemma IsSimple.decompose_eq {c : Char} (h : IsSimple c) : decompose c = [c] := h

lemma toNat_ofNat {n : Nat} (h : n.isValidChar) : (Char.ofNat n).toNat = n := by
  rw [Char.ofNat, dif_pos h]
  rfl

/-- What holds of the characters outside a set holds of the characters with numbers outside it. A number that is
none of a character stands for the null character. -/
lemma of_testBit_ofNat {P : Char → Prop} {bits n : Nat} (hP : ∀ c, bits.testBit c.toNat = false → P c)
    (hzero : P '\x00') (h : bits.testBit n = false) : P (Char.ofNat n) := by
  by_cases hvalid : n.isValidChar
  · exact hP _ (by rwa [toNat_ofNat hvalid])
  · rw [Char.ofNat, dif_neg hvalid]
    exact hzero

/-! ### The tables at a glance -/

/-- Runs and entries but for those that fill up a table: these are beyond all characters. -/
def proper {α : Type} (es : List (Nat × α)) : List (Nat × α) :=
  es.filter (·.1 < 0x110000)

lemma mem_proper {α : Type} {es : List (Nat × α)} {n : Nat} {a : α} {c : Char} (hmem : (n, a) ∈ es)
    (hle : n ≤ c.toNat) : (n, a) ∈ proper es := by
  have hlt : c.toNat < 0x110000 := by
    obtain h | h := c.valid
    · exact Nat.lt_trans h (by decide)
    · exact h.2
  exact List.mem_filter.mpr ⟨hmem, decide_eq_true (Nat.lt_of_le_of_lt hle hlt)⟩

/-- The runs of characters that decompose into one. -/
def singleRuns : List (Nat × Nat × Nat) := proper (triples singles)

/-- The entries of the characters that decompose into several. -/
def sequenceEntries : List (Nat × List Nat) := proper (entries false sequences)

/-- The ways in which a character is taken apart, if it is. -/
inductive Parts (c : Char) : List Char → Prop where
  | whole (h : IsSimple c) : Parts c [c]
  | syllable (hlow : 0xAC00 ≤ c.toNat) (hhigh : c.toNat ≤ 0xD7A3) : Parts c (decomposeHangul c.toNat)
  | single {first last start : Nat} (hmem : (first, last, start) ∈ singleRuns) (hfirst : first ≤ c.toNat)
      (hlast : c.toNat ≤ last) : Parts c [Char.ofNat (start + (c.toNat - first))]
  | several {entry : List Nat} (hmem : (c.toNat, entry) ∈ sequenceEntries) : Parts c (entry.map Char.ofNat)

/-- There are no other ways. -/
lemma Parts.of_decompose (c : Char) : Parts c (decompose c) := by
  generalize hds : decompose c = ds
  have hparts := hds
  unfold decompose at hparts
  dsimp only at hparts
  split_ifs at hparts with hlatin hsyllable
  · subst hparts
    exact .whole hds
  · subst hparts
    exact .syllable hsyllable.1 hsyllable.2
  · split at hparts
    · rename_i image himage
      obtain ⟨first, last, start, hmem, hfirst, hlast, rfl⟩ := mem_triples_of_imageInRuns himage
      subst hparts
      exact .single (mem_proper hmem hfirst) hfirst hlast
    · split at hparts
      · rename_i entry hentry
        subst hparts
        exact .several (mem_proper (mem_entries_of_entryOf hentry) (Nat.le_refl _))
      · subst hparts
        exact .whole hds

/-! ### Sets of characters -/

/-- The characters that decompose into one, as bits. -/
def singleBits : Nat := union (singleRuns.map fun (first, last, _) => runBits first (last + 1 - first))

/-- The characters that can be taken apart, as bits. -/
def takenBits : Nat := singleBits ||| bitsAt (sequenceEntries.map Prod.fst) ||| runBits 0xAC00 11172

/-- What characters of a set decompose into if they can be taken apart, as bits. All jamo are among it. -/
def partBits (bits : Nat) : Nat :=
  union (singleRuns.map fun (first, last, start) => movedBits bits first (last + 1 - first) start) |||
    bitsAt ((sequenceEntries.filter fun e => bits.testBit e.1).flatMap Prod.snd) ||| runBits 0x1100 195

lemma testBit_singleBits {n first last start : Nat} (hmem : (first, last, start) ∈ singleRuns) (hfirst : first ≤ n)
    (hlast : n ≤ last) : singleBits.testBit n :=
  testBit_union.mpr ⟨_, List.mem_map_of_mem hmem, testBit_runBits.mpr ⟨hfirst, by omega⟩⟩

lemma isSimple_of_testBit {c : Char} (h : takenBits.testBit c.toNat = false) : IsSimple c := by
  rw [takenBits, Nat.testBit_or, Nat.testBit_or, Bool.or_eq_false_iff, Bool.or_eq_false_iff] at h
  obtain ⟨⟨hsingle, hsequence⟩, hsyllable⟩ := h
  have hparts := Parts.of_decompose c
  generalize hds : decompose c = ds at hparts
  cases hparts with
  | whole h => exact h
  | syllable hlow hhigh =>
    rw [testBit_runBits.mpr ⟨hlow, by omega⟩] at hsyllable
    cases hsyllable
  | single hmem hfirst hlast =>
    rw [testBit_singleBits hmem hfirst hlast] at hsingle
    cases hsingle
  | several hmem =>
    rw [testBit_bitsAt.mpr (List.mem_map_of_mem hmem)] at hsequence
    cases hsequence

/-- Syllables decompose into jamo. -/
lemma exists_of_mem_decomposeHangul {n : Nat} (hlow : 0xAC00 ≤ n) (hhigh : n ≤ 0xD7A3) {d : Char}
    (hd : d ∈ decomposeHangul n) : ∃ k, (runBits 0x1100 195).testBit k ∧ d = Char.ofNat k := by
  simp only [testBit_runBits]
  rw [decomposeHangul] at hd
  split_ifs at hd
  · obtain rfl | hd := List.mem_cons.mp hd
    · exact ⟨_, ⟨by omega, by omega⟩, rfl⟩
    · exact ⟨_, ⟨by omega, by omega⟩, List.mem_singleton.mp hd⟩
  · obtain rfl | hd := List.mem_cons.mp hd
    · exact ⟨_, ⟨by omega, by omega⟩, rfl⟩
    obtain rfl | hd := List.mem_cons.mp hd
    · exact ⟨_, ⟨by omega, by omega⟩, rfl⟩
    · exact ⟨_, ⟨by omega, by omega⟩, List.mem_singleton.mp hd⟩

/-- Whatever a character of a set is taken apart into is found among the parts. -/
lemma testBit_partBits {bits : Nat} {c d : Char} (hbits : bits.testBit c.toNat) (hsimple : ¬ IsSimple c)
    (hd : d ∈ decompose c) : ∃ n, (partBits bits).testBit n ∧ d = Char.ofNat n := by
  simp only [partBits, Nat.testBit_or, Bool.or_eq_true]
  have hparts := Parts.of_decompose c
  generalize decompose c = ds at hparts hd
  cases hparts with
  | whole h => contradiction
  | syllable hlow hhigh =>
    obtain ⟨n, hn, rfl⟩ := exists_of_mem_decomposeHangul hlow hhigh hd
    exact ⟨n, .inr hn, rfl⟩
  | @single first last start hmem hfirst hlast =>
    have hend : c.toNat < first + (last + 1 - first) := by omega
    exact ⟨_, .inl (.inl (testBit_union.mpr ⟨_, List.mem_map_of_mem hmem,
      testBit_movedBits hfirst hend hbits⟩)), List.mem_singleton.mp hd⟩
  | several hmem =>
    obtain ⟨n, hn, rfl⟩ := List.mem_map.mp hd
    exact ⟨n, .inl (.inr (testBit_bitsAt.mpr (List.mem_flatMap.mpr
      ⟨_, List.mem_filter.mpr ⟨hmem, hbits⟩, hn⟩))), rfl⟩

/-- If no part of the characters of a set is in another one, then all their parts have the property that the other
set excludes. -/
lemma forall_mem_decompose_of_disjoint {P : Char → Prop} {bits other : Nat}
    (hP : ∀ c, other.testBit c.toNat = false → P c) (hzero : P '\x00') (hdisjoint : partBits bits &&& other = 0)
    {c : Char} (hbits : bits.testBit c.toNat) (hsimple : ¬ IsSimple c) : ∀ d ∈ decompose c, P d := by
  intro d hd
  obtain ⟨n, hn, rfl⟩ := testBit_partBits hbits hsimple hd
  exact of_testBit_ofNat hP hzero (testBit_of_disjoint hdisjoint hn)

/-! ### Search trees -/

/-- The sequences as a search tree. -/
def sequenceIndex : Index := (Index.build 12 (entries false sequences)).1

/-- The decomposition of a character, found by way of the bits and the search tree. -/
def lookUp (c : Char) : List Char :=
  let n := c.toNat
  if n < 0xA0 then [c]
  else if 0xAC00 ≤ n ∧ n ≤ 0xD7A3 then decomposeHangul n
  else if !takenBits.testBit n then [c]
  else if singleBits.testBit n then decompose c
  else match sequenceIndex.find? n with
    | some entry => entry.map Char.ofNat
    | none => decompose c

/-- All that is checked of the tables, at once, since unpacking them takes the most time: no part can be taken apart
further, no sequence is empty, the sequences are sorted, and a composed character decomposes into the decompositions
of the two. -/
lemma tables_checked :
    partBits takenBits &&& takenBits = 0 ∧ (sequenceEntries.all fun e => !e.2.isEmpty) = true ∧
      ascends (entries false sequences) = true ∧
      ((proper (triples compositions)).all fun (a, b, t) =>
        lookUp (Char.ofNat t) == lookUp (Char.ofNat a) ++ lookUp (Char.ofNat b)) = true := by
  decide +kernel

/-- The detour finds the decomposition. -/
lemma lookUp_eq (c : Char) : lookUp c = decompose c := by
  unfold lookUp
  dsimp only
  split_ifs with hlatin hsyllable htaken hsingle
  · simp only [decompose, hlatin, if_true]
  · simp only [decompose, hlatin, hsyllable, and_self, if_true, if_false]
  · exact (isSimple_of_testBit (by simpa using htaken)).symm
  · rfl
  · split
    · -- Both tables could hold the character; the decomposition asks the other one first.
      rename_i entry hfind
      have hnosingle : imageInRuns c.toNat singles = none := by
        refine Option.eq_none_iff_forall_ne_some.mpr fun image himage => hsingle ?_
        obtain ⟨first, last, start, hmem, hfirst, hlast, -⟩ := mem_triples_of_imageInRuns himage
        exact testBit_singleBits (mem_proper hmem hfirst) hfirst hlast
      obtain ⟨-, -, hascend, -⟩ := tables_checked
      have hentry := entryOf_of_mem (pairwise_of_ascends hascend) (Index.mem_of_find? hfind)
      simp only [decompose, hlatin, hsyllable, hnosingle, hentry, if_false]
    · rfl

/-! ### Taking apart what has been taken apart -/

/-- Characters of a decomposition cannot be taken apart further. -/
theorem isSimple_of_mem_decompose {c d : Char} (h : d ∈ decompose c) : IsSimple d := by
  by_cases hsimple : IsSimple c
  · rw [hsimple, List.mem_singleton] at h
    exact h ▸ hsimple
  have hbits : takenBits.testBit c.toNat := by
    by_contra hbit
    exact hsimple (isSimple_of_testBit (by simpa using hbit))
  exact forall_mem_decompose_of_disjoint (fun _ => isSimple_of_testBit) rfl tables_checked.1 hbits hsimple d h

lemma decompose_ne_nil (c : Char) : decompose c ≠ [] := by
  have hparts := Parts.of_decompose c
  generalize decompose c = ds at hparts
  cases hparts with
  | whole h => exact List.cons_ne_nil _ _
  | syllable hlow hhigh =>
    unfold decomposeHangul
    dsimp only
    split_ifs <;> exact List.cons_ne_nil _ _
  | single hmem hfirst hlast => exact List.cons_ne_nil _ _
  | several hmem =>
    obtain ⟨-, hne, -⟩ := tables_checked
    simpa using List.all_eq_true.mp hne _ hmem

/-! ### Taking apart what has been composed -/

/-- The jamo and the syllables, which compose by a rule of their own, as bits. -/
def hangulBits : Nat := runBits 0x1100 195 ||| runBits 0xAC00 11172

lemma testBit_hangulBits {n : Nat} :
    hangulBits.testBit n ↔ 0x1100 ≤ n ∧ n ≤ 0x11C2 ∨ 0xAC00 ≤ n ∧ n ≤ 0xD7A3 := by
  rw [hangulBits, Nat.testBit_or, Bool.or_eq_true, testBit_runBits, testBit_runBits]
  omega

/-- The rule composes Hangul only. -/
lemma testBit_of_composeHangul {a b n : Nat} (h : composeHangul a b = some n) :
    hangulBits.testBit a ∧ hangulBits.testBit b ∧ hangulBits.testBit (Char.ofNat n).toNat := by
  have hbounds : (0x1100 ≤ a ∧ a ≤ 0x11C2 ∨ 0xAC00 ≤ a ∧ a ≤ 0xD7A3) ∧ (0x1100 ≤ b ∧ b ≤ 0x11C2) ∧
      0xAC00 ≤ n ∧ n ≤ 0xD7A3 := by
    unfold composeHangul at h
    split_ifs at h <;> have hn := Option.some.inj h <;> omega
  obtain ⟨ha, hb, hn⟩ := hbounds
  have hvalid : n.isValidChar := .inl (by omega)
  rw [toNat_ofNat hvalid]
  exact ⟨testBit_hangulBits.mpr ha, testBit_hangulBits.mpr (.inl hb), testBit_hangulBits.mpr (.inr hn)⟩

/-- Two characters compose by the rule for Hangul or by the table. -/
lemma composePair_cases {a b c : Char} (h : composePair a b = some c) :
    (∃ n, composeHangul a.toNat b.toNat = some n ∧ c = Char.ofNat n) ∨
      ∃ n, (a.toNat, b.toNat, n) ∈ proper (triples compositions) ∧ c = Char.ofNat n := by
  unfold composePair at h
  split_ifs at h
  split at h
  · rename_i n hn
    exact .inl ⟨n, hn, (Option.some.inj h).symm⟩
  · obtain ⟨n, hn, rfl⟩ := Option.map_eq_some_iff.mp h
    exact .inr ⟨n, mem_proper (mem_triples_of_thirdOf hn) (Nat.le_refl _), rfl⟩

lemma isSimple_jamo {c : Char} (hlow : 0x1100 ≤ c.toNat) (hhigh : c.toNat < 0x1100 + 195) : IsSimple c := by
  have hpart : (partBits takenBits).testBit c.toNat := by
    rw [partBits, Nat.testBit_or, testBit_runBits.mpr ⟨hlow, hhigh⟩, Bool.or_true]
  exact isSimple_of_testBit (testBit_of_disjoint tables_checked.1 hpart)

lemma decompose_syllable {n : Nat} (hlow : 0xAC00 ≤ n) (hhigh : n ≤ 0xD7A3) :
    decompose (Char.ofNat n) = decomposeHangul n := by
  have hvalid : n.isValidChar := .inl (by omega)
  have hlatin : ¬ n < 0xA0 := by omega
  simp only [decompose, toNat_ofNat hvalid, hlatin, hlow, hhigh, and_self, if_true, if_false]

/-- The lead, the vowel and the final consonant of a syllable, which has none if its number is zero. -/
lemma decomposeHangul_add {lead vowel final : Nat} (hvowel : vowel < 21) (hfinal : final < 28) :
    decomposeHangul (0xAC00 + ((lead * 21 + vowel) * 28 + final)) =
      if final = 0 then [Char.ofNat (0x1100 + lead), Char.ofNat (0x1161 + vowel)]
      else [Char.ofNat (0x1100 + lead), Char.ofNat (0x1161 + vowel), Char.ofNat (0x11A7 + final)] := by
  rw [decomposeHangul, Nat.add_sub_cancel_left]
  have hlead : ((lead * 21 + vowel) * 28 + final) / 588 = lead := by omega
  have hmiddle : ((lead * 21 + vowel) * 28 + final) % 588 / 28 = vowel := by omega
  have hlast : ((lead * 21 + vowel) * 28 + final) % 28 = final := by omega
  simp only [hlead, hmiddle, hlast]

/-- A syllable decomposes into the jamo that it has been composed of. -/
lemma decompose_of_composeHangul {a b : Char} {n : Nat} (h : composeHangul a.toNat b.toNat = some n) :
    decompose (Char.ofNat n) = decompose a ++ decompose b := by
  unfold composeHangul at h
  split_ifs at h with hlead hfinal
  · have ha : decompose a = [a] := isSimple_jamo (by omega) (by omega)
    have hb : decompose b = [b] := isSimple_jamo (by omega) (by omega)
    obtain ⟨lead, hlead⟩ : ∃ lead, a.toNat = 0x1100 + lead := Nat.exists_eq_add_of_le (by omega)
    obtain ⟨vowel, hvowel⟩ : ∃ vowel, b.toNat = 0x1161 + vowel := Nat.exists_eq_add_of_le (by omega)
    have hn : 0xAC00 + ((lead * 21 + vowel) * 28 + 0) = n := by
      rw [← Option.some.inj h]
      omega
    rw [decompose_syllable (by omega) (by omega), ← hn, decomposeHangul_add (by omega) (by omega), if_pos rfl,
      ← hlead, ← hvowel, Char.ofNat_toNat, Char.ofNat_toNat, ha, hb]
    rfl
  · have hb : decompose b = [b] := isSimple_jamo (by omega) (by omega)
    obtain ⟨final, hfinal⟩ : ∃ final, b.toNat = 0x11A7 + final := Nat.exists_eq_add_of_le (by omega)
    obtain ⟨lead, vowel, hvowel, ha⟩ : ∃ lead vowel, vowel < 21 ∧
        a.toNat = 0xAC00 + ((lead * 21 + vowel) * 28 + 0) :=
      ⟨(a.toNat - 0xAC00) / 588, (a.toNat - 0xAC00) % 588 / 28, by omega, by omega⟩
    have hn : 0xAC00 + ((lead * 21 + vowel) * 28 + final) = n := by
      rw [← Option.some.inj h]
      omega
    have hfirst : decompose a = decomposeHangul a.toNat := by
      rw [← decompose_syllable (by omega) (by omega), Char.ofNat_toNat]
    rw [decompose_syllable (by omega) (by omega), hfirst, ha, ← hn, decomposeHangul_add hvowel (by omega),
      decomposeHangul_add hvowel (by omega), if_pos rfl, if_neg (by omega), ← hfinal, Char.ofNat_toNat, hb]
    rfl

/-- A character that is composed of two decomposes into what these decompose into. -/
theorem decompose_of_composePair {a b c : Char} (h : composePair a b = some c) :
    decompose c = decompose a ++ decompose b := by
  obtain ⟨n, hn, rfl⟩ | ⟨n, hmem, rfl⟩ := composePair_cases h
  · exact decompose_of_composeHangul hn
  · obtain ⟨-, -, -, hcompositions⟩ := tables_checked
    have hlookUp := eq_of_beq (List.all_eq_true.mp hcompositions _ hmem)
    simpa only [Char.ofNat_toNat, lookUp_eq] using hlookUp

end OperatorDaemon.Unicode
