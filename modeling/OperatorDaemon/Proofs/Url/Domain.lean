import OperatorDaemon.Proofs.Unicode.Lowercase
import OperatorDaemon.Proofs.Url.Punycode
import OperatorDaemon.Url.Domain

/-!
# The ASCII form of a domain name

The ASCII form of a domain name is its own ASCII form: there are no capitals in the common form of characters, so
that nothing in ASCII is changed by it, and a label in Punycode stands for the label that it was made from.
-/

namespace OperatorDaemon.Domain

open Unicode

variable {c : Char} {cs : List Char}

/-! ### Common forms -/

/-- A character of an ASCII form of a label. -/
structure IsPlain (c : Char) : Prop where
  ascii : c.toNat < 0x80
  lower : asciiLower c = c
  ne_dot : c ≠ '.'

/-- A character is no capital in ASCII. -/
def IsSmall (c : Char) : Prop := c.toNat < 0x80 → asciiLower c = c

lemma isLower_iff_of_toNat_lt (h : c.toNat < 0x80) : IsLower c ↔ asciiLower c = c := by
  rw [IsLower, lowercaseChar, if_pos h, List.singleton_inj]

lemma IsSmall.of_isLower (h : IsLower c) : IsSmall c := fun hascii => (isLower_iff_of_toNat_lt hascii).mp h

lemma IsSmall.of_beyond_ascii (h : 0x80 ≤ c.toNat) : IsSmall c := fun hascii => absurd h (Nat.not_le_of_lt hascii)

/-- What has been composed of two is not in ASCII, where everything is simple. -/
lemma IsSmall.of_composePair {a b : Char} (h : composePair a b = some c) : IsSmall c := by
  refine .of_beyond_ascii (Nat.le_of_not_lt fun hascii => ?_)
  have hparts : decompose a ++ decompose b = [c] :=
    calc decompose a ++ decompose b = decompose c := (decompose_of_composePair h).symm
      _ = [c] := isSimple_of_ascii hascii
  obtain ⟨hnil, -⟩ | ⟨-, hnil⟩ := List.append_eq_singleton_iff.mp hparts
  · exact decompose_ne_nil a hnil
  · exact decompose_ne_nil b hnil

/-- The characters that stand for others in common forms and are not their lower-case forms, as bits. -/
def foldedBits : Nat :=
  bitsAt [0xDF, 0x3C2, 0xFFFD] |||
    union ((triples foldRuns).map fun (first, last, start) => runBits start (last + 1 - first))

/-- None of them is a capital in ASCII or can be taken apart. -/
lemma foldedBits_checked : foldedBits &&& (takenBits ||| runBits 0x41 26) = 0 := by decide +kernel

lemma isSimple_isSmall_of_testBit (h : (takenBits ||| runBits 0x41 26).testBit c.toNat = false) : IsSimple c ∧ IsSmall c := by
  rw [Nat.testBit_or, Bool.or_eq_false_iff] at h
  obtain ⟨htaken, hcapital⟩ := h
  refine ⟨isSimple_of_testBit htaken, fun _ => ?_⟩
  rw [asciiLower_eq]
  refine if_neg fun hletter => ?_
  rw [testBit_runBits.mpr ⟨hletter.1, by omega⟩] at hcapital
  cases hcapital

lemma isSimple_isSmall_of_folded {n : Nat} (h : foldedBits.testBit n) :
    IsSimple (Char.ofNat n) ∧ IsSmall (Char.ofNat n) :=
  of_testBit_ofNat (P := fun c => IsSimple c ∧ IsSmall c) (fun _ => isSimple_isSmall_of_testBit)
    ⟨rfl, fun _ => rfl⟩ (testBit_of_disjoint foldedBits_checked h)

/-- A simple character is folded to a simple one that is no capital, or to small letters. -/
lemma mem_foldChar {d u : Char} (hd : IsSimple d) (h : u ∈ foldChar d) :
    (IsSimple u ∧ IsSmall u) ∨ ∃ n ∈ smallLetters, u = Char.ofNat n := by
  rw [foldChar] at h
  split at h
  · rename_i image himage
    obtain ⟨first, last, start, hmem, hfirst, hlast, rfl⟩ := mem_triples_of_imageInRuns himage
    have hrun : (runBits start (last + 1 - first)).testBit (start + (d.toNat - first)) :=
      testBit_runBits.mpr ⟨Nat.le_add_right _ _, by omega⟩
    have hfolded : foldedBits.testBit (start + (d.toNat - first)) := by
      rw [foldedBits, Nat.testBit_or, Bool.or_eq_true]
      exact .inr (testBit_union.mpr ⟨_, List.mem_map_of_mem hmem, hrun⟩)
    rw [List.mem_singleton.mp h]
    exact .inl (isSimple_isSmall_of_folded hfolded)
  · refine (mem_lowercaseChar h).imp_left ?_
    rintro ⟨rfl, hlower⟩
    exact ⟨hd, .of_isLower hlower⟩

/-- The common form of a character is simple and no capital, or it consists of small letters. -/
lemma mem_mapChar {u : Char} (h : u ∈ mapChar c) :
    (IsSimple u ∧ IsSmall u) ∨ ∃ n ∈ smallLetters, u = Char.ofNat n := by
  have hfolded {n : Nat} (h : n ∈ [0xDF, 0x3C2, 0xFFFD]) : foldedBits.testBit n := by
    rw [foldedBits, Nat.testBit_or, Bool.or_eq_true]
    exact .inl (testBit_bitsAt.mpr h)
  rw [mapChar] at h
  split_ifs at h with hascii hignored hdot hdisallowed hsharp hsigma
  · have hmem : u ∈ lowercaseChar c := by rwa [lowercaseChar, if_pos hascii]
    refine (mem_lowercaseChar hmem).imp_left ?_
    rintro ⟨rfl, hlower⟩
    exact ⟨isSimple_of_ascii hascii, .of_isLower hlower⟩
  · cases h
  · rw [List.mem_singleton.mp h]
    exact .inl ⟨rfl, fun _ => rfl⟩
  · rw [List.mem_singleton.mp h]
    exact .inl (isSimple_isSmall_of_folded (hfolded (n := 0xFFFD) (by decide)))
  · rw [List.mem_singleton.mp h]
    exact .inl (isSimple_isSmall_of_folded (hfolded (n := 0xDF) (by decide)))
  · rw [List.mem_singleton.mp h, hsigma]
    exact .inl (isSimple_isSmall_of_folded (hfolded (n := 0x3C2) (by decide)))
  · obtain ⟨d, hd, hu⟩ := List.mem_flatMap.mp h
    exact mem_foldChar (isSimple_of_mem_decompose hd) hu

/-- No capital comes of taking apart such characters. -/
lemma isSmall_of_mem_decompose {u d : Char}
    (h : (IsSimple u ∧ IsSmall u) ∨ ∃ n ∈ smallLetters, u = Char.ofNat n) (hd : d ∈ decompose u) : IsSmall d := by
  obtain ⟨hsimple, hsmall⟩ | ⟨n, hn, rfl⟩ := h
  · rw [hsimple, List.mem_singleton] at hd
    exact hd ▸ hsmall
  · obtain ⟨hself, hparts, -⟩ := letters_checked
    exact .of_isLower (forall_mem_decompose_small (fun _ => isLower_of_testBit) rfl hself hparts hn d hd)

/-- There are no capitals in common forms. -/
lemma isSmall_of_mem_mapChars (h : c ∈ mapChars cs) : IsSmall c := by
  refine forall_mem_nfkcChars (Q := IsSmall) (fun _ h => h) (fun _ _ _ _ _ => .of_composePair) ?_ c h
  intro u hu d hd
  obtain ⟨c, -, hc⟩ := List.mem_flatMap.mp hu
  exact isSmall_of_mem_decompose (mem_mapChar hc) hd

/-- What is in ASCII and lower case is its own common form. -/
lemma mapChars_of_ascii (h : ∀ c ∈ cs, c.toNat < 0x80 ∧ asciiLower c = c) : mapChars cs = cs := by
  have hmap : cs.flatMap mapChar = cs := by
    calc cs.flatMap mapChar = cs.flatMap fun c => [c] := by
          refine List.flatMap_congr fun c hc => ?_
          obtain ⟨hascii, hlower⟩ := h c hc
          rw [mapChar, if_pos hascii, hlower]
      _ = cs := List.flatMap_singleton' cs
  rw [mapChars, hmap, nfkcChars_of_ascii fun c hc => (h c hc).1]

/-! ### Labels -/

lemma labels_eq_splitOn (cs : List Char) : labels cs = cs.splitOn '.' := by
  induction cs with
  | nil => rfl
  | cons c cs ih =>
    rw [labels, ih, List.splitOn, List.splitOn, List.splitOnP_cons_eq_if_modifyHead]
    by_cases hc : c = '.'
    · simp [hc]
    · obtain ⟨label, more, hlabels⟩ := List.exists_cons_of_ne_nil (List.splitOnP_ne_nil (· == '.') cs)
      simp [hc, hlabels]

lemma labels_ne_nil (cs : List Char) : labels cs ≠ [] := by
  rw [labels_eq_splitOn]
  exact List.splitOnP_ne_nil _ _

lemma labels_cons_of_ne (hc : c ≠ '.') {label : List Char} {more : List (List Char)} (h : labels cs = label :: more) :
    labels (c :: cs) = (c :: label) :: more := by
  rw [labels, if_neg hc, h]

/-- Labels consist of the characters between the dots. -/
lemma mem_labels {label : List Char} (hlabel : label ∈ labels cs) (hc : c ∈ label) : c ∈ cs ∧ c ≠ '.' := by
  induction cs generalizing label with
  | nil =>
    rw [labels, List.mem_singleton] at hlabel
    rw [hlabel] at hc
    cases hc
  | cons d cs ih =>
    have htail {label : List Char} (hlabel : label ∈ labels cs) (hc : c ∈ label) : c ∈ d :: cs ∧ c ≠ '.' :=
      (ih hlabel hc).imp_left (List.mem_cons_of_mem d)
    by_cases hd : d = '.'
    · rw [labels, if_pos hd, List.mem_cons] at hlabel
      obtain rfl | hlabel := hlabel
      · cases hc
      · exact htail hlabel hc
    · obtain ⟨first, more, hlabels⟩ := List.exists_cons_of_ne_nil (labels_ne_nil cs)
      rw [labels_cons_of_ne hd hlabels, List.mem_cons] at hlabel
      rw [hlabels] at htail
      obtain rfl | hlabel := hlabel
      · obtain rfl | hc := List.mem_cons.mp hc
        · exact ⟨List.mem_cons_self, hd⟩
        · exact htail List.mem_cons_self hc
      · exact htail (List.mem_cons_of_mem _ hlabel) hc

/-- Labels with dots between them are split there again. -/
lemma labels_intercalate {parts : List (List Char)} (hne : parts ≠ []) (h : ∀ label ∈ parts, '.' ∉ label) :
    labels (['.'].intercalate parts) = parts := by
  rw [labels_eq_splitOn]
  exact List.splitOn_intercalate '.' h hne

lemma mem_intercalate {sep : Char} {parts : List (List Char)} (h : c ∈ [sep].intercalate parts) :
    c = sep ∨ ∃ part ∈ parts, c ∈ part := by
  induction parts with
  | nil => cases h
  | cons part parts ih =>
    have htail (h : c ∈ [sep].intercalate parts) : c = sep ∨ ∃ part' ∈ part :: parts, c ∈ part' :=
      (ih h).imp_right fun ⟨part', hpart', hc⟩ => ⟨part', List.mem_cons_of_mem _ hpart', hc⟩
    cases parts with
    | nil =>
      rw [List.intercalate_singleton] at h
      exact .inr ⟨part, List.mem_cons_self, h⟩
    | cons part' parts =>
      rw [List.intercalate_cons_cons, List.append_assoc, List.mem_append, List.mem_append] at h
      obtain h | h | h := h
      · exact .inr ⟨part, List.mem_cons_self, h⟩
      · exact .inl (List.mem_singleton.mp h)
      · exact htail h

/-! ### ASCII forms -/

lemma isPlain_of_mem_mark : ∀ c ∈ mark, c.toNat < 0x80 ∧ asciiLower c = c ∧ c ≠ '.' := by
  have hall : mark.all fun c => decide (c.toNat < 0x80 ∧ asciiLower c = c ∧ c ≠ '.') := by decide
  exact fun c hc => of_decide_eq_true (List.all_eq_true.mp hall c hc)

/-- The ASCII form of a label without capitals is plain, and it is its own ASCII form. -/
lemma asciiLabel?_of_eq_some {label out : List Char} (hsmall : ∀ c ∈ label, IsSmall c) (hdot : '.' ∉ label)
    (h : asciiLabel? label = some out) : (∀ c ∈ out, IsPlain c) ∧ asciiLabel? out = some out := by
  have hplain (hascii : ∀ c ∈ label, c.toNat < 0x80) : ∀ c ∈ label, IsPlain c := fun c hc =>
    ⟨hascii c hc, hsmall c hc (hascii c hc), fun h => hdot (h ▸ hc)⟩
  have hmarked (decoded : List Char) : ∀ c ∈ mark ++ Punycode.encode decoded,
      c.toNat < 0x80 ∧ (c ∉ decoded → IsPlain c) := by
    intro c hc
    obtain hc | hc := List.mem_append.mp hc
    · obtain ⟨hascii, hlower, hdot⟩ := isPlain_of_mem_mark c hc
      exact ⟨hascii, fun _ => ⟨hascii, hlower, hdot⟩⟩
    · obtain ⟨hmem, hascii⟩ | rfl | hdigit := Punycode.mem_encode hc
      · exact ⟨hascii, fun hnot => absurd hmem hnot⟩
      · exact ⟨by decide, fun _ => ⟨by decide, by decide, by decide⟩⟩
      · obtain ⟨hascii, hlower, -, hdot⟩ := hdigit.isPlain
        exact ⟨hascii, fun _ => ⟨hascii, hlower, hdot⟩⟩
  have hsame := h
  rw [asciiLabel?] at h
  split_ifs at h with hmark hascii hform
  · split at h
    · cases h
    · rename_i decoded hdecoded
      split_ifs at h with hcheck
      cases h
      simp only [Bool.and_eq_true, decide_eq_true_eq] at hcheck
      exact ⟨hplain fun c hc => (hmarked decoded c (hcheck.2 ▸ hc)).1, hsame⟩
  · cases h
    exact ⟨hplain (by simpa using hascii), hsame⟩
  · cases h
    refine ⟨fun c hc => ?_, ?_⟩
    · obtain ⟨hascii', hother⟩ := hmarked label c hc
      by_cases hmem : c ∈ label
      · exact ⟨hascii', hsmall c hmem hascii', fun h => hdot (h ▸ hmem)⟩
      · exact hother hmem
    · have hany : label.any (128 ≤ ·.toNat) = true := by simpa using hascii
      have hprefix : mark.isPrefixOf (mark ++ Punycode.encode label) = true :=
        List.isPrefixOf_iff_prefix.mpr (List.prefix_append _ _)
      simp only [asciiLabel?, hprefix, if_true, List.drop_left, Punycode.decode?_encode, hany, hform, Bool.and_self,
        decide_true]

lemma mapM_eq_some_iff {α β : Type} {f : α → Option β} {as : List α} {bs : List β} :
    as.mapM f = some bs ↔ List.Forall₂ (f · = some ·) as bs := by
  induction as generalizing bs with
  | nil => simp [List.mapM_nil, eq_comm]
  | cons a as ih =>
    simp only [List.mapM_cons, Option.bind_eq_bind, Option.bind_eq_some_iff, Option.pure_def, Option.some.injEq,
      List.forall₂_cons_left_iff, ih]
    constructor
    · rintro ⟨b, hb, bs, hbs, rfl⟩
      exact ⟨b, bs, hb, hbs, rfl⟩
    · rintro ⟨b, bs, hb, hbs, rfl⟩
      exact ⟨b, hb, bs, hbs, rfl⟩

lemma exists_of_mem_right {α β : Type} {R : α → β → Prop} {as : List α} {bs : List β} (h : List.Forall₂ R as bs)
    {b : β} (hb : b ∈ bs) : ∃ a ∈ as, R a b := by
  induction h with
  | nil => cases hb
  | cons hab hrest ih =>
    obtain rfl | hb := List.mem_cons.mp hb
    · exact ⟨_, List.mem_cons_self, hab⟩
    · obtain ⟨a, ha, hab⟩ := ih hb
      exact ⟨a, List.mem_cons_of_mem _ ha, hab⟩

/-- Labels without characters that are written from right to left keep to their directions. -/
lemma areDirected_of_toNat_lt {parts : List (List Char)} (h : ∀ part ∈ parts, ∀ c ∈ part, c.toNat < 0x590) :
    areDirected parts = true := by
  have hany : (parts.any fun part => part.any turnsAround) = false := by
    refine List.any_eq_false.mpr fun part hpart => ?_
    rw [Bool.not_eq_true, List.any_eq_false]
    intro c hc
    simp [turnsAround, Nat.not_le_of_lt (h part hpart c hc)]
  rw [areDirected, hany]
  rfl

/-- Plain labels that are their own ASCII forms make up a name that is, if they keep to their directions. -/
lemma ascii?_intercalate {parts : List (List Char)} (hne : parts ≠ [])
    (h : ∀ part ∈ parts, (∀ c ∈ part, IsPlain c) ∧ asciiLabel? part = some part)
    (hforbidden : ∀ c ∈ ['.'].intercalate parts, isForbidden c = false)
    (hdirected : areDirected (parts.map plainLabel) = true) :
    ascii? (['.'].intercalate parts) = some (['.'].intercalate parts) := by
  have hlower : ∀ c ∈ ['.'].intercalate parts, c.toNat < 0x80 ∧ asciiLower c = c := by
    intro c hc
    obtain rfl | ⟨part, hpart, hc⟩ := mem_intercalate hc
    · decide
    · exact ⟨((h part hpart).1 c hc).ascii, ((h part hpart).1 c hc).lower⟩
  have hlabels : labels (['.'].intercalate parts) = parts :=
    labels_intercalate hne fun part hpart hdot => ((h part hpart).1 '.' hdot).ne_dot rfl
  have hparts : parts.mapM asciiLabel? = some parts :=
    mapM_eq_some_iff.mpr (List.forall₂_same.mpr fun part hpart => (h part hpart).2)
  have hany : (['.'].intercalate parts).any isForbidden = false :=
    List.any_eq_false.mpr fun c hc => by simp [hforbidden c hc]
  simp only [ascii?, mapChars_of_ascii hlower, hlabels, hparts, Option.bind_eq_bind, Option.bind_some, hany,
    hdirected, Bool.not_true, Bool.or_self, Bool.false_eq_true, if_false, Option.pure_def]

/-- An ASCII form is made up of labels that are plain and their own ASCII forms, nothing in it is forbidden, and
the labels keep to their directions. -/
lemma exists_parts_of_ascii? {name : List Char} (h : ascii? cs = some name) :
    ∃ parts, parts ≠ [] ∧ name = ['.'].intercalate parts ∧
      (∀ part ∈ parts, (∀ c ∈ part, IsPlain c) ∧ asciiLabel? part = some part) ∧
      (∀ c ∈ name, isForbidden c = false) ∧ areDirected (parts.map plainLabel) = true := by
  simp only [ascii?, Option.bind_eq_bind, Option.bind_eq_some_iff, Option.pure_def] at h
  obtain ⟨parts, hparts, hname⟩ := h
  split_ifs at hname with hrefused
  cases hname
  rw [mapM_eq_some_iff] at hparts
  simp only [Bool.or_eq_true, Bool.not_eq_true', not_or, Bool.not_eq_true, Bool.not_eq_false] at hrefused
  obtain ⟨hforbidden, hdirected⟩ := hrefused
  refine ⟨parts, ?_, rfl, fun part hpart => ?_, fun c hc => ?_, hdirected⟩
  · rintro rfl
    exact labels_ne_nil _ (List.forall₂_nil_right_iff.mp hparts)
  · obtain ⟨label, hlabel, hascii⟩ := exists_of_mem_right hparts hpart
    exact asciiLabel?_of_eq_some (fun c hc => isSmall_of_mem_mapChars (mem_labels hlabel hc).1)
      (fun hdot => (mem_labels hlabel hdot).2 rfl) hascii
  · rw [List.any_eq_false] at hforbidden
    simpa using hforbidden c hc

/-- The ASCII form of a name is its own ASCII form. -/
theorem ascii?_of_eq_some {name : List Char} (h : ascii? cs = some name) : ascii? name = some name := by
  obtain ⟨parts, hne, rfl, hparts, hforbidden, hdirected⟩ := exists_parts_of_ascii? h
  exact ascii?_intercalate hne hparts hforbidden hdirected

/-- All characters of an ASCII form are in ASCII, and none is forbidden. -/
lemma forall_mem_of_ascii? {name : List Char} (h : ascii? cs = some name) :
    ∀ c ∈ name, c.toNat < 0x80 ∧ isForbidden c = false := by
  obtain ⟨parts, -, rfl, hparts, hforbidden, -⟩ := exists_parts_of_ascii? h
  intro c hc
  refine ⟨?_, hforbidden c hc⟩
  obtain rfl | ⟨part, hpart, hc⟩ := mem_intercalate hc
  · decide
  · exact ((hparts part hpart).1 c hc).ascii

end OperatorDaemon.Domain
