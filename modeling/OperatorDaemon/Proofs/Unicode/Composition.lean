import OperatorDaemon.Proofs.Unicode.Decomposition
import OperatorDaemon.Proofs.Unicode.Order

/-!
# Compatibility normalization once more

Taking apart what has been composed gives back the ordered characters that it was composed of. So normalizing a
normalized text changes nothing.
-/

namespace OperatorDaemon.Unicode

variable {s c d t : Char} {cs ds marks rest : List Char}

/-! ### Steps of the composition -/

/-- The last mark that stayed behind the starter does not block a character. -/
def IsFree (marks : List Char) (c : Char) : Prop :=
  ∀ m ∈ marks.head?, combiningClass m < combiningClass c

/-- The ways in which a character can be dealt with that follows on a starter and its marks: it is composed with
the starter, it starts anew, or it stays as a mark. -/
inductive Step (s : Char) (marks : List Char) (c : Char) (rest : List Char) : List Char → Prop where
  | joined {t : Char} (hfree : IsFree marks c) (hpair : composePair s c = some t) :
      Step s marks c rest (composeFrom t marks rest)
  | started (hclass : combiningClass c = 0) :
      Step s marks c rest (s :: (marks.reverse ++ composeFrom c [] rest))
  | stayed (hclass : combiningClass c ≠ 0) : Step s marks c rest (composeFrom s (c :: marks) rest)

/-- There are no other ways. -/
lemma Step.of_composeFrom : Step s marks c rest (composeFrom s marks (c :: rest)) := by
  rw [composeFrom.eq_def]
  dsimp only
  split
  · rename_i t hpair
    split_ifs at hpair with hblocked
    refine .joined ?_ hpair
    intro m hm
    cases marks with
    | nil => cases hm
    | cons m' marks =>
      cases hm
      simpa using hblocked
  · split_ifs with hclass
    · exact .started hclass
    · exact .stayed hclass

/-! ### Characters that are kept or composed -/

section

variable {P Q : Char → Prop}

/-- A property of the characters of a text is one of its composition, if it is kept when two are composed. -/
lemma forall_mem_composeFrom (hQ : ∀ c, Q c → P c)
    (hpair : ∀ s c t, P s → Q c → composePair s c = some t → P t) (hs : P s) (hmarks : ∀ m ∈ marks, Q m)
    (hrest : ∀ c ∈ rest, Q c) : ∀ c ∈ composeFrom s marks rest, P c := by
  induction rest generalizing s marks with
  | nil =>
    simp only [composeFrom, List.mem_cons, List.mem_reverse, forall_eq_or_imp]
    exact ⟨hs, fun m hm => hQ m (hmarks m hm)⟩
  | cons c rest ih =>
    obtain ⟨hc, hrest⟩ := List.forall_mem_cons.mp hrest
    have hstep : Step s marks c rest _ := .of_composeFrom
    generalize composeFrom s marks (c :: rest) = out at hstep ⊢
    cases hstep with
    | joined hfree hpair' => exact ih (hpair _ _ _ hs hc hpair') hmarks hrest
    | started hclass =>
      simp only [List.mem_cons, List.mem_append, List.mem_reverse]
      rintro d (rfl | hd | hd)
      · exact hs
      · exact hQ d (hmarks d hd)
      · exact ih (hQ c hc) (by simp) hrest d hd
    | stayed hclass => exact ih hs (List.forall_mem_cons.mpr ⟨hc, hmarks⟩) hrest

lemma forall_mem_compose (hQ : ∀ c, Q c → P c)
    (hpair : ∀ s c t, P s → Q c → composePair s c = some t → P t) (hcs : ∀ c ∈ cs, Q c) :
    ∀ c ∈ compose cs, P c := by
  induction cs with
  | nil => simp [compose]
  | cons c rest ih =>
    obtain ⟨hc, hrest⟩ := List.forall_mem_cons.mp hcs
    rw [compose]
    split_ifs
    · exact forall_mem_composeFrom hQ hpair (hQ c hc) (by simp) hrest
    · exact List.forall_mem_cons.mpr ⟨hQ c hc, ih hrest⟩

/-- A property of everything that a text decomposes into is one of its normal form, if it is kept when two
characters are composed. -/
lemma forall_mem_nfkcChars (hQ : ∀ c, Q c → P c)
    (hpair : ∀ s c t, P s → Q c → composePair s c = some t → P t) (hcs : ∀ c ∈ cs, ∀ d ∈ decompose c, Q d) :
    ∀ c ∈ nfkcChars cs, P c := by
  refine forall_mem_compose hQ hpair fun d hd => ?_
  obtain ⟨c, hc, hdc⟩ := List.mem_flatMap.mp (mem_orderMarks.mp hd)
  exact hcs c hc d hdc

end

/-- A character is settled if it is simple or composed of a settled one and a simple one. -/
inductive IsSettled : Char → Prop where
  | simple {c : Char} (h : IsSimple c) : IsSettled c
  | composed {s c t : Char} (hs : IsSettled s) (hc : IsSimple c) (h : composePair s c = some t) : IsSettled t

/-- Normal forms consist of settled characters. -/
lemma isSettled_of_mem_nfkcChars (h : c ∈ nfkcChars cs) : IsSettled c :=
  forall_mem_nfkcChars (Q := IsSimple) (fun _ => IsSettled.simple) (fun _ _ _ => IsSettled.composed)
    (fun _ _ _ => isSimple_of_mem_decompose) c h

/-- A property of a settled character is one of everything that it decomposes into, if it is kept when a composed
character is taken apart. -/
lemma IsSettled.forall_mem_decompose {P : Char → Prop}
    (hpair : ∀ s c t, composePair s c = some t → P t → P s ∧ P c) (h : IsSettled c) (hc : P c) :
    ∀ d ∈ decompose c, P d := by
  induction h with
  | simple hsimple =>
    rw [hsimple.decompose_eq]
    simpa using hc
  | composed hs hsimple hcomposed ih =>
    obtain ⟨hs, hc⟩ := hpair _ _ _ hcomposed hc
    rw [decompose_of_composePair hcomposed, hsimple.decompose_eq]
    exact List.forall_mem_append.mpr ⟨ih hs, by simpa using hc⟩

/-! ### Normalizing twice -/

lemma flatMap_decompose_of_simple (h : ∀ c ∈ cs, IsSimple c) : cs.flatMap decompose = cs := by
  induction cs with
  | nil => rfl
  | cons c rest ih =>
    obtain ⟨hc, hrest⟩ := List.forall_mem_cons.mp h
    rw [List.flatMap_cons, ih hrest, hc.decompose_eq]
    rfl

/-- Marks that stayed behind a starter, the last of them first, are in order, and so is what comes next. -/
structure InOrder (marks rest : List Char) : Prop where
  nonzero : ∀ m ∈ marks, combiningClass m ≠ 0
  descending : marks.Pairwise fun m m' => combiningClass m' ≤ combiningClass m
  follows : ∀ m ∈ marks.head?, ∀ c ∈ rest.head?, MayFollow m c
  chain : rest.IsChain MayFollow

namespace InOrder

lemma nil (h : rest.IsChain MayFollow) : InOrder [] rest := ⟨by simp, .nil, by simp, h⟩

/-- No mark has a higher class than the last one. -/
lemma le_head (h : InOrder marks rest) {m : Char} (hm : m ∈ marks) :
    ∃ m' ∈ marks.head?, combiningClass m ≤ combiningClass m' := by
  cases marks with
  | nil => cases hm
  | cons m' marks =>
    refine ⟨m', rfl, ?_⟩
    obtain rfl | hm := List.mem_cons.mp hm
    · exact Nat.le_refl _
    · exact (List.pairwise_cons.mp h.descending).1 m hm

/-- A mark may stay behind the others. -/
lemma stay (h : InOrder marks (c :: rest)) (hclass : combiningClass c ≠ 0) : InOrder (c :: marks) rest where
  nonzero := List.forall_mem_cons.mpr ⟨hclass, h.nonzero⟩
  descending := by
    refine List.pairwise_cons.mpr ⟨fun m hm => ?_, h.descending⟩
    obtain ⟨m', hm', hle⟩ := h.le_head hm
    have hfollow : MayFollow m' c := h.follows m' hm' c rfl
    unfold MayFollow at hfollow
    omega
  follows := by simpa using (List.isChain_cons.mp h.chain).1
  chain := h.chain.tail

/-- A character that is not blocked is of a higher class than the marks that it skips. -/
lemma lt_of_isFree (h : InOrder marks rest) (hfree : IsFree marks c) {m : Char} (hm : m ∈ marks) :
    combiningClass m ≠ 0 ∧ combiningClass m < combiningClass c := by
  obtain ⟨m', hm', hle⟩ := h.le_head hm
  exact ⟨h.nonzero m hm, Nat.lt_of_le_of_lt hle (hfree m' hm')⟩

/-- Without a character that is not blocked the others are still in order. -/
lemma skip (h : InOrder marks (c :: rest)) (hfree : IsFree marks c) : InOrder marks rest where
  nonzero := h.nonzero
  descending := h.descending
  follows m hm d hd := by
    have hlt : combiningClass m < combiningClass c := hfree m hm
    have hfollow : MayFollow c d := (List.isChain_cons.mp h.chain).1 d hd
    unfold MayFollow at hfollow ⊢
    omega
  chain := h.chain.tail

end InOrder

/-- Taking apart a composition gives back what it was composed of. -/
lemma orderMarks_flatMap_composeFrom (horder : InOrder marks rest) (hmarks : ∀ m ∈ marks, IsSimple m)
    (hrest : ∀ c ∈ rest, IsSimple c) :
    orderMarks ((composeFrom s marks rest).flatMap decompose) =
      orderMarks (decompose s ++ (marks.reverse ++ rest)) := by
  have hreverse {marks : List Char} (h : ∀ m ∈ marks, IsSimple m) :
      marks.reverse.flatMap decompose = marks.reverse :=
    flatMap_decompose_of_simple fun m hm => h m (List.mem_reverse.mp hm)
  induction rest generalizing s marks with
  | nil =>
    rw [composeFrom, List.flatMap_cons, hreverse hmarks, List.append_nil]
  | cons c rest ih =>
    obtain ⟨hc, hrest⟩ := List.forall_mem_cons.mp hrest
    have hstep : Step s marks c rest _ := .of_composeFrom
    generalize composeFrom s marks (c :: rest) = out at hstep ⊢
    cases hstep with
    | @joined t hfree hpair =>
      -- The marks that the character skips are of lower classes, so that it may as well stand in front of them.
      have hmove : orderMarks (c :: (marks.reverse ++ rest)) = orderMarks (marks.reverse ++ c :: rest) :=
        (orderMarks_move fun m hm => horder.lt_of_isFree hfree (List.mem_reverse.mp hm)).symm
      calc orderMarks ((composeFrom t marks rest).flatMap decompose)
          = orderMarks (decompose t ++ (marks.reverse ++ rest)) := ih (horder.skip hfree) hmarks hrest
        _ = orderMarks (decompose s ++ c :: (marks.reverse ++ rest)) := by
          rw [decompose_of_composePair hpair, hc.decompose_eq, List.append_assoc]
          rfl
        _ = orderMarks (decompose s ++ (marks.reverse ++ c :: rest)) := orderMarks_append_congr hmove
    | started hclass =>
      have hrest' : orderMarks ((composeFrom c [] rest).flatMap decompose) = orderMarks (c :: rest) := by
        rw [ih (.nil horder.chain.tail) (by simp) hrest, hc.decompose_eq]
        rfl
      rw [List.flatMap_cons, List.flatMap_append, hreverse hmarks]
      exact orderMarks_append_congr (orderMarks_append_congr hrest')
    | stayed hclass =>
      rw [ih (horder.stay hclass) (List.forall_mem_cons.mpr ⟨hc, hmarks⟩) hrest, List.reverse_cons,
        List.append_assoc]
      rfl

lemma orderMarks_flatMap_compose (horder : cs.IsChain MayFollow) (hcs : ∀ c ∈ cs, IsSimple c) :
    orderMarks ((compose cs).flatMap decompose) = orderMarks cs := by
  induction cs with
  | nil => rfl
  | cons c rest ih =>
    obtain ⟨hc, hrest⟩ := List.forall_mem_cons.mp hcs
    rw [compose]
    split_ifs
    · have hnil : InOrder [] rest := .nil horder.tail
      rw [orderMarks_flatMap_composeFrom hnil (by simp) hrest, hc.decompose_eq]
      rfl
    · rw [List.flatMap_cons, hc.decompose_eq]
      exact orderMarks_append_congr (ih horder.tail hrest)

/-- Normalizing a normalized text changes nothing. -/
theorem nfkcChars_nfkcChars (cs : List Char) : nfkcChars (nfkcChars cs) = nfkcChars cs := by
  have hchain := isChain_orderMarks (cs.flatMap decompose)
  have hsimple : ∀ d ∈ orderMarks (cs.flatMap decompose), IsSimple d := by
    intro d hd
    obtain ⟨c, -, hdc⟩ := List.mem_flatMap.mp (mem_orderMarks.mp hd)
    exact isSimple_of_mem_decompose hdc
  calc nfkcChars (nfkcChars cs)
      = compose (orderMarks ((compose (orderMarks (cs.flatMap decompose))).flatMap decompose)) := rfl
    _ = compose (orderMarks (orderMarks (cs.flatMap decompose))) := by
      rw [orderMarks_flatMap_compose hchain hsimple]
    _ = nfkcChars cs := by rw [orderMarks_of_isChain hchain]; rfl

/-! ### Texts in parts -/

/-- A character is inert if it is a simple starter that composes with no other. -/
structure IsInert (c : Char) : Prop where
  isSimple : IsSimple c
  class_eq : combiningClass c = 0
  first : ∀ d, composePair c d = none
  second : ∀ d, composePair d c = none

lemma composeFrom_append_inert (hd : IsInert d) :
    composeFrom s marks (cs ++ d :: ds) = composeFrom s marks cs ++ composeFrom d [] ds := by
  induction cs generalizing s marks with
  | nil => simp [composeFrom, hd.second, hd.class_eq]
  | cons c cs ih =>
    simp only [List.cons_append, composeFrom]
    split
    · exact ih
    · split_ifs
      · rw [ih, List.cons_append, List.append_assoc]
      · exact ih

lemma composeFrom_inert (hd : IsInert d) : composeFrom d marks ds = d :: (marks.reverse ++ compose ds) := by
  induction ds generalizing marks with
  | nil => simp [composeFrom, compose]
  | cons e ds ih =>
    simp only [composeFrom, compose, hd.first, ite_self]
    split_ifs
    · rfl
    · rw [ih, List.reverse_cons, List.append_assoc]
      rfl

lemma compose_append_inert (hd : IsInert d) : compose (cs ++ d :: ds) = compose cs ++ d :: compose ds := by
  induction cs with
  | nil => simp [compose, hd.class_eq, composeFrom_inert hd]
  | cons c cs ih =>
    simp only [List.cons_append, compose]
    split_ifs
    · rw [composeFrom_append_inert hd, composeFrom_inert hd]
      rfl
    · rw [ih, List.cons_append]

/-- What is in front of an inert character and what is behind it are normalized apart. -/
lemma nfkcChars_append_inert (hd : IsInert d) :
    nfkcChars (cs ++ d :: ds) = nfkcChars cs ++ d :: nfkcChars ds := by
  simp only [nfkcChars, List.flatMap_append, List.flatMap_cons, hd.isSimple.decompose_eq, List.singleton_append]
  rw [orderMarks_append_starter hd.class_eq, compose_append_inert hd]

lemma composeFrom_ne_nil (s : Char) (marks cs : List Char) : composeFrom s marks cs ≠ [] := by
  induction cs generalizing s marks with
  | nil => exact List.cons_ne_nil _ _
  | cons c cs ih =>
    have hstep : Step s marks c cs _ := .of_composeFrom
    generalize composeFrom s marks (c :: cs) = out at hstep ⊢
    cases hstep with
    | joined hfree hpair => exact ih _ _
    | started hclass => exact List.cons_ne_nil _ _
    | stayed hclass => exact ih _ _

/-- Nothing vanishes altogether. -/
lemma nfkcChars_ne_nil (h : cs ≠ []) : nfkcChars cs ≠ [] := by
  have hcompose {cs : List Char} (h : cs ≠ []) : compose cs ≠ [] := by
    cases cs with
    | nil => contradiction
    | cons c cs =>
      rw [compose]
      split_ifs
      · exact composeFrom_ne_nil _ _ _
      · exact List.cons_ne_nil _ _
  refine hcompose fun hnil => ?_
  obtain ⟨c, hc⟩ := List.exists_mem_of_ne_nil cs h
  obtain ⟨d, hd⟩ := List.exists_mem_of_ne_nil _ (decompose_ne_nil c)
  have hmem : d ∈ orderMarks (cs.flatMap decompose) := mem_orderMarks.mpr (List.mem_flatMap.mpr ⟨c, hc, hd⟩)
  rw [hnil] at hmem
  cases hmem

/-! ### Texts in ASCII -/

lemma isSimple_of_ascii (h : c.toNat < 0x80) : IsSimple c := if_pos (by omega)

lemma combiningClass_of_ascii (h : c.toNat < 0x80) : combiningClass c = 0 := if_pos (by omega)

/-- Nothing composes with an ASCII character behind it. -/
lemma composePair_of_ascii (h : d.toNat < 0x80) : composePair c d = none := if_pos (by omega)

lemma composeFrom_of_ascii (h : ∀ c ∈ cs, c.toNat < 0x80) : composeFrom s [] cs = s :: cs := by
  induction cs generalizing s with
  | nil => rfl
  | cons c cs ih =>
    obtain ⟨hc, hcs⟩ := List.forall_mem_cons.mp h
    simp [composeFrom, composePair_of_ascii hc, combiningClass_of_ascii hc, ih hcs]

/-- A text in ASCII is in normal form. -/
lemma nfkcChars_of_ascii (h : ∀ c ∈ cs, c.toNat < 0x80) : nfkcChars cs = cs := by
  have horder : cs.IsChain MayFollow := by
    refine List.Pairwise.isChain (List.pairwise_of_forall_mem_list fun c _ d hd => ?_)
    exact .inl (combiningClass_of_ascii (h d hd))
  rw [nfkcChars, flatMap_decompose_of_simple fun c hc => isSimple_of_ascii (h c hc), orderMarks_of_isChain horder]
  cases cs with
  | nil => rfl
  | cons c cs =>
    obtain ⟨hc, hcs⟩ := List.forall_mem_cons.mp h
    rw [compose, if_pos (combiningClass_of_ascii hc), composeFrom_of_ascii hcs]

end OperatorDaemon.Unicode
