import OperatorDaemon.Proofs.Unicode.Composition
import OperatorDaemon.Unicode.Lowercase

/-!
# Lower case and normalization

Making a text lower case twice is the same as doing so once. Making a normal form lower case may leave a text that
is no normal form, but then its normal form is lower case: it takes a second pass at most to reach a text that is
both.
-/

namespace OperatorDaemon.Unicode

/-- A character is lower if it is its own lower-case form. -/
def IsLower (c : Char) : Prop := lowercaseChar c = [c]

/-! ### The table at a glance -/

/-- The runs of lower-case forms. -/
def lowercaseQuadruples : List (Nat × Nat × Nat × Nat) := proper (quadruples lowercaseRuns)

/-- The numbers of the characters that become others in lower case. -/
def capitals : List Nat :=
  List.range' 0x41 26 ++ 0x130 :: lowercaseQuadruples.flatMap fun (first, last, step, _) =>
    List.range' first ((last - first) / step + 1) step

/-- The numbers of the characters that others become in lower case. -/
def smallLetters : List Nat :=
  List.range' 0x61 26 ++ [0x307, 0x3C2, 0x3C3] ++
    lowercaseQuadruples.flatMap fun (first, last, step, start) =>
      List.range' start ((last - first) / step + 1) step

/-- The runs are sorted, they hold no ASCII characters but letters, and no character in them is its own lower-case
form. -/
lemma lowercaseRuns_checked : ascends (quadruples lowercaseRuns) = true ∧
    (lowercaseQuadruples.all fun (first, last, _, start) =>
      (0x80 ≤ first || 0x41 ≤ first && last ≤ 0x5A) && first ≤ last && first != start) = true := by
  decide +kernel

lemma proper_of_mem {first last step start : Nat} (h : (first, last, step, start) ∈ lowercaseQuadruples) :
    (0x80 ≤ first ∨ 0x41 ≤ first ∧ last ≤ 0x5A) ∧ first ≤ last ∧ first ≠ start := by
  simpa [and_assoc] using List.all_eq_true.mp lowercaseRuns_checked.2 _ h

lemma mem_range'_of_mod {first last step n : Nat} (start : Nat) (hfirst : first ≤ n) (hlast : n ≤ last)
    (hstep : (n - first) % step = 0) :
    start + (n - first) ∈ List.range' start ((last - first) / step + 1) step := by
  refine List.mem_range'.mpr ⟨(n - first) / step, ?_, ?_⟩
  · have hle : (n - first) / step ≤ (last - first) / step := Nat.div_le_div_right (by omega)
    omega
  · rw [Nat.mul_div_cancel' (Nat.dvd_of_mod_eq_zero hstep)]

/-- What is found in the table is the small letter of a capital, and another number. -/
lemma mem_of_imageInSteps {c : Char} {image : Nat} (h : imageInSteps c.toNat lowercaseRuns = some image) :
    c.toNat ∈ capitals ∧ image ∈ smallLetters ∧ image ≠ c.toNat := by
  obtain ⟨first, last, step, start, hmem, hfirst, hlast, hstep, rfl⟩ := mem_quadruples_of_imageInSteps h
  have hproper : (first, last, step, start) ∈ lowercaseQuadruples := mem_proper hmem hfirst
  refine ⟨List.mem_append_right _ (List.mem_cons_of_mem _ (List.mem_flatMap.mpr ⟨_, hproper, ?_⟩)),
    List.mem_append_right _ (List.mem_flatMap.mpr
      ⟨_, hproper, mem_range'_of_mod start hfirst hlast hstep⟩), ?_⟩
  · have hmember := mem_range'_of_mod first hfirst hlast hstep
    rwa [Nat.add_sub_cancel' hfirst] at hmember
  · have hne := (proper_of_mem hproper).2.2
    omega

/-- A capital is an ASCII letter, or the letter with a dot, or it is found in the table. -/
lemma mem_capitals {n : Nat} (h : n ∈ capitals) :
    (0x41 ≤ n ∧ n ≤ 0x5A) ∨ n = 0x130 ∨ (0x80 ≤ n ∧ (imageInSteps n lowercaseRuns).isSome) := by
  obtain hascii | htable := List.mem_append.mp h
  · exact .inl ⟨(List.mem_range'_1.mp hascii).1, Nat.le_of_lt_succ (List.mem_range'_1.mp hascii).2⟩
  obtain hdotted | htable := List.mem_cons.mp htable
  · exact .inr (.inl hdotted)
  obtain ⟨⟨first, last, step, start⟩, hproper, hmember⟩ := List.mem_flatMap.mp htable
  obtain ⟨k, hk, rfl⟩ := List.mem_range'.mp hmember
  obtain ⟨hascii, hle, -⟩ := proper_of_mem hproper
  have hmem : (first, last, step, start) ∈ quadruples lowercaseRuns := (List.mem_filter.mp hproper).1
  have hlast : step * k ≤ last - first :=
    calc step * k ≤ step * ((last - first) / step) := Nat.mul_le_mul_left _ (by omega)
      _ ≤ last - first := Nat.mul_div_le _ _
  have hsome : (imageInSteps (first + step * k) lowercaseRuns).isSome := by
    refine isSome_imageInSteps (pairwise_of_ascends lowercaseRuns_checked.1) hmem (Nat.le_add_right _ _)
      (by omega) ?_
    rw [Nat.add_sub_cancel_left, Nat.mul_mod_right]
  obtain hbeyond | hletter := hascii
  · exact .inr (.inr ⟨by omega, hsome⟩)
  · exact .inl ⟨by omega, by omega⟩

lemma asciiLower_eq (c : Char) :
    asciiLower c = if 0x41 ≤ c.toNat ∧ c.toNat ≤ 0x5A then Char.ofNat (c.toNat + 32) else c := rfl

lemma isLower_iff_of_ascii {c : Char} (hascii : c.toNat < 0x80) : IsLower c ↔ c.toNat ∉ capitals := by
  rw [IsLower, lowercaseChar, if_pos hascii, List.singleton_inj, asciiLower_eq]
  split_ifs with hletter
  · refine iff_of_false (fun h => ?_) fun h => h (List.mem_append_left _ ?_)
    · have hvalid : (c.toNat + 32).isValidChar := .inl (by omega)
      have htoNat := congrArg Char.toNat h
      rw [toNat_ofNat hvalid] at htoNat
      omega
    · exact List.mem_range'_1.mpr ⟨hletter.1, Nat.lt_succ_of_le hletter.2⟩
  · refine iff_of_true rfl fun hmem => ?_
    obtain hletter' | hdotted | ⟨hge, -⟩ := mem_capitals hmem
    · exact hletter hletter'
    · omega
    · omega

lemma isLower_iff_beyond_ascii {c : Char} (hascii : ¬ c.toNat < 0x80) (hdotted : c ≠ '\u0130') :
    IsLower c ↔ c.toNat ∉ capitals := by
  rw [IsLower, lowercaseChar, if_neg hascii, if_neg hdotted]
  cases himage : imageInSteps c.toNat lowercaseRuns with
  | none =>
    refine iff_of_true rfl fun hmem => ?_
    obtain hletter | hdotted' | ⟨-, hsome⟩ := mem_capitals hmem
    · omega
    · exact hdotted (by rw [← Char.ofNat_toNat c, hdotted'])
    · rw [himage] at hsome
      cases hsome
  | some image =>
    obtain ⟨hmem, -, hne⟩ := mem_of_imageInSteps himage
    refine iff_of_false (fun h => ?_) fun h => h hmem
    have hchar : Char.ofNat image = c := List.singleton_inj.mp h
    -- A number that is none of a character would stand for the null character, which is ASCII.
    by_cases hvalid : image.isValidChar
    · rw [← hchar, toNat_ofNat hvalid] at hne
      exact hne rfl
    · rw [← hchar, Char.ofNat, dif_neg hvalid] at hascii
      exact hascii (by decide)

/-- The lower characters are all but the capitals. -/
lemma isLower_iff {c : Char} : IsLower c ↔ c.toNat ∉ capitals := by
  by_cases hascii : c.toNat < 0x80
  · exact isLower_iff_of_ascii hascii
  · by_cases hdotted : c = '\u0130'
    · rw [hdotted]
      exact iff_of_false (by unfold IsLower; decide) fun h => h (List.mem_append_right _ List.mem_cons_self)
    · exact isLower_iff_beyond_ascii hascii hdotted

/-! ### Making a text lower case twice -/

/-- What a character becomes is the character itself, if it is lower, or small letters. -/
lemma mem_lowercaseChar {c u : Char} (hu : u ∈ lowercaseChar c) :
    (u = c ∧ IsLower c) ∨ ∃ n ∈ smallLetters, u = Char.ofNat n := by
  by_cases hlower : IsLower c
  · rw [hlower, List.mem_singleton] at hu
    exact .inl ⟨hu, hlower⟩
  right
  have hascii {n : Nat} (h : 0x61 ≤ n ∧ n < 0x61 + 26) : n ∈ smallLetters :=
    List.mem_append_left _ (List.mem_append_left _ (List.mem_range'_1.mpr h))
  unfold IsLower at hlower
  unfold lowercaseChar at hlower hu
  split_ifs at hlower hu
  · rw [asciiLower_eq] at hlower hu
    split_ifs at hlower hu
    · exact ⟨_, hascii ⟨by omega, by omega⟩, List.mem_singleton.mp hu⟩
    · contradiction
  · obtain rfl | hu := List.mem_cons.mp hu
    · exact ⟨0x69, hascii ⟨by decide, by decide⟩, rfl⟩
    · exact ⟨0x307, List.mem_append_left _ (List.mem_append_right _ (by decide)), List.mem_singleton.mp hu⟩
  · split at hu
    · rename_i image himage
      exact ⟨image, (mem_of_imageInSteps himage).2.1, List.mem_singleton.mp hu⟩
    · rename_i hnone
      rw [hnone] at hlower
      contradiction

/-- What is in a text in lower case has been in the text and is lower, or is a small letter. -/
lemma mem_lowercaseFrom {before cs : List Char} {u : Char} (h : u ∈ lowercaseFrom before cs) :
    (u ∈ cs ∧ IsLower u) ∨ ∃ n ∈ smallLetters, u = Char.ofNat n := by
  induction cs generalizing before with
  | nil => cases h
  | cons c cs ih =>
    rw [lowercaseFrom, List.mem_append] at h
    obtain h | h := h
    · have hsigma {n : Nat} (h : n ∈ [0x307, 0x3C2, 0x3C3]) : n ∈ smallLetters :=
        List.mem_append_left _ (List.mem_append_right _ h)
      split_ifs at h
      · exact .inr ⟨0x3C2, hsigma (by decide), List.mem_singleton.mp h⟩
      · exact .inr ⟨0x3C3, hsigma (by decide), List.mem_singleton.mp h⟩
      · obtain ⟨rfl, hlower⟩ | hsmall := mem_lowercaseChar h
        · exact .inl ⟨List.mem_cons_self, hlower⟩
        · exact .inr hsmall
    · exact (ih h).imp_left fun hu => ⟨List.mem_cons_of_mem _ hu.1, hu.2⟩

lemma not_isLower_sigma : ¬ IsLower '\u03A3' := by
  unfold IsLower
  decide +kernel

/-- A text that is lower stays as it is. -/
lemma lowercaseFrom_of_isLower {before cs : List Char} (h : ∀ c ∈ cs, IsLower c) :
    lowercaseFrom before cs = cs := by
  induction cs generalizing before with
  | nil => rfl
  | cons c cs ih =>
    obtain ⟨hc, hcs⟩ := List.forall_mem_cons.mp h
    have hsigma : c ≠ '\u03A3' := fun hsigma => not_isLower_sigma (hsigma ▸ hc)
    have hchar : lowercaseChar c = [c] := hc
    rw [lowercaseFrom, ih hcs]
    simp [hsigma, hchar]

/-! ### Taking apart what is lower -/

/-- The small letters as bits. -/
def smallBits : Nat := bitsAt smallLetters

section

variable {P : Char → Prop} {other : Nat} (hP : ∀ c, other.testBit c.toNat = false → P c) (hzero : P '\x00')
  (hself : smallBits &&& other = 0) (hparts : partBits smallBits &&& other = 0)

include hP hzero hself hparts

/-- If neither small letters nor their parts are in a set, then the parts of a small letter have the property that
the set excludes. -/
lemma forall_mem_decompose_small {n : Nat} (hn : n ∈ smallLetters) : ∀ d ∈ decompose (Char.ofNat n), P d := by
  have hbit : smallBits.testBit n := testBit_bitsAt.mpr hn
  by_cases hsimple : IsSimple (Char.ofNat n)
  · rw [hsimple]
    simpa using of_testBit_ofNat hP hzero (testBit_of_disjoint hself hbit)
  · -- The null character is simple.
    have hvalid : n.isValidChar := by
      by_contra hvalid
      rw [Char.ofNat, dif_neg hvalid] at hsimple
      exact hsimple rfl
    exact forall_mem_decompose_of_disjoint hP hzero hparts (by rwa [toNat_ofNat hvalid]) hsimple

/-- Then the property is also one of everything that a normal form in lower case decomposes into, if it is one of
the normal form and is kept when a composed character is taken apart. -/
lemma forall_mem_decompose_lowercaseChars (hpair : ∀ s c t, composePair s c = some t → P t → P s ∧ P c)
    {cs : List Char} {u : Char} (hmem : u ∈ lowercaseChars (nfkcChars cs)) (hu : P u) :
    ∀ d ∈ decompose u, P d := by
  obtain ⟨hmem, -⟩ | ⟨n, hn, rfl⟩ := mem_lowercaseFrom hmem
  · have hsettled : IsSettled u := isSettled_of_mem_nfkcChars hmem
    exact hsettled.forall_mem_decompose hpair hu
  · exact forall_mem_decompose_small hP hzero hself hparts hn

end

/-- The capitals as bits. -/
def capitalBits : Nat := bitsAt capitals

/-- No small letter is a capital or decomposes into one, neither is Hangul, and what is composed is a capital if
and only if it is composed of one. -/
lemma letters_checked :
    smallBits &&& capitalBits = 0 ∧ partBits smallBits &&& capitalBits = 0 ∧ hangulBits &&& capitalBits = 0 ∧
      ((proper (triples compositions)).all fun (a, b, t) =>
        capitalBits.testBit (Char.ofNat t).toNat == (capitalBits.testBit a || capitalBits.testBit b)) = true := by
  decide +kernel

lemma testBit_capitalBits {c : Char} : capitalBits.testBit c.toNat = false ↔ IsLower c := by
  rw [isLower_iff, ← Bool.not_eq_true, capitalBits, testBit_bitsAt]

lemma isLower_of_testBit {c : Char} : capitalBits.testBit c.toNat = false → IsLower c := testBit_capitalBits.mp

lemma isLower_of_mem_smallLetters {n : Nat} (h : n ∈ smallLetters) : IsLower (Char.ofNat n) :=
  of_testBit_ofNat (fun _ => isLower_of_testBit) rfl
    (testBit_of_disjoint letters_checked.1 (testBit_bitsAt.mpr h))

/-- A text in lower case consists of characters that are lower. -/
lemma isLower_of_mem_lowercaseChars {cs : List Char} {u : Char} (h : u ∈ lowercaseChars cs) : IsLower u := by
  obtain ⟨-, hlower⟩ | ⟨n, hn, rfl⟩ := mem_lowercaseFrom h
  · exact hlower
  · exact isLower_of_mem_smallLetters hn

/-- Making a text lower case twice is the same as doing so once. -/
theorem lowercaseChars_lowercaseChars (cs : List Char) :
    lowercaseChars (lowercaseChars cs) = lowercaseChars cs :=
  lowercaseFrom_of_isLower fun _ => isLower_of_mem_lowercaseChars

/-- A composed character is lower if and only if it is composed of lower ones. -/
lemma isLower_of_composePair {a b c : Char} (h : composePair a b = some c) :
    IsLower c ↔ IsLower a ∧ IsLower b := by
  obtain ⟨-, -, hhangul, hcompositions⟩ := letters_checked
  obtain ⟨n, hn, rfl⟩ | ⟨n, hmem, rfl⟩ := composePair_cases h
  · have hlower {c : Char} (h : hangulBits.testBit c.toNat) : IsLower c :=
      isLower_of_testBit (testBit_of_disjoint hhangul h)
    obtain ⟨ha, hb, hc⟩ := testBit_of_composeHangul hn
    exact iff_of_true (hlower hc) ⟨hlower ha, hlower hb⟩
  · have hcheck := eq_of_beq (List.all_eq_true.mp hcompositions _ hmem)
    rw [← testBit_capitalBits, ← testBit_capitalBits, ← testBit_capitalBits, hcheck, Bool.or_eq_false_iff]

/-- A normal form that is made lower case has a normal form that is lower case. -/
theorem lowercaseChars_nfkcChars_lowercaseChars (cs : List Char) :
    lowercaseChars (nfkcChars (lowercaseChars (nfkcChars cs))) = nfkcChars (lowercaseChars (nfkcChars cs)) := by
  refine lowercaseFrom_of_isLower (forall_mem_nfkcChars (Q := IsLower) (fun _ h => h) ?_ ?_)
  · exact fun s c t hs hc hpair => (isLower_of_composePair hpair).mpr ⟨hs, hc⟩
  · intro u hu
    obtain ⟨hself, hparts, -⟩ := letters_checked
    exact forall_mem_decompose_lowercaseChars (fun _ => isLower_of_testBit) rfl hself hparts
      (fun _ _ _ hpair => (isLower_of_composePair hpair).mp) hu (isLower_of_mem_lowercaseChars hu)

end OperatorDaemon.Unicode
