import Mathlib.Data.List.Chain
import OperatorDaemon.Unicode.Normalization

/-!
# The canonical order of marks

Putting marks in order keeps every character, changes nothing that is in order, and does not depend on the order in
which marks of different classes come.
-/

namespace OperatorDaemon.Unicode

variable {c d : Char} {cs ds marks rest : List Char}

/-! ### Characters that are in order -/

/-- A character may follow another one if it is a starter or of no lower class. -/
def MayFollow (c d : Char) : Prop :=
  combiningClass d = 0 ∨ combiningClass c ≤ combiningClass d

lemma insertMark_of_mayFollow (h : ∀ d ∈ cs.head?, MayFollow c d) : insertMark c cs = c :: cs := by
  cases cs with
  | nil => rfl
  | cons d rest =>
    have hd : MayFollow c d := h d rfl
    unfold MayFollow at hd
    exact if_neg (by omega)

lemma insertMark_cons_of_not_mayFollow (h : ¬ MayFollow c d) :
    insertMark c (d :: rest) = d :: insertMark c rest := by
  unfold MayFollow at h
  exact if_pos (by omega)

/-- What is in order stays as it is. -/
lemma orderMarks_of_isChain (h : cs.IsChain MayFollow) : orderMarks cs = cs := by
  induction cs with
  | nil => rfl
  | cons c rest ih =>
    obtain ⟨hhead, hrest⟩ := List.isChain_cons.mp h
    calc orderMarks (c :: rest) = insertMark c (orderMarks rest) := rfl
      _ = insertMark c rest := by rw [ih hrest]
      _ = c :: rest := insertMark_of_mayFollow hhead

lemma isChain_insertMark (h : cs.IsChain MayFollow) : (insertMark c cs).IsChain MayFollow := by
  induction cs with
  | nil => exact List.isChain_singleton c
  | cons d rest ih =>
    obtain ⟨hhead, hrest⟩ := List.isChain_cons.mp h
    by_cases hcd : MayFollow c d
    · rw [insertMark_of_mayFollow (by simpa using hcd)]
      exact List.isChain_cons.mpr ⟨by simpa using hcd, h⟩
    · rw [insertMark_cons_of_not_mayFollow hcd]
      refine List.isChain_cons.mpr ⟨?_, ih hrest⟩
      have hdc : MayFollow d c := by
        unfold MayFollow at hcd ⊢
        omega
      cases rest with
      | nil => simpa [insertMark] using hdc
      | cons e rest =>
        have hde : MayFollow d e := hhead e rfl
        by_cases hce : MayFollow c e
        · rw [insertMark_of_mayFollow (by simpa using hce)]
          simpa using hdc
        · rw [insertMark_cons_of_not_mayFollow hce]
          simpa using hde

/-- Marks are in order after they have been put in order. -/
lemma isChain_orderMarks (cs : List Char) : (orderMarks cs).IsChain MayFollow := by
  induction cs with
  | nil => exact List.isChain_nil
  | cons c rest ih => exact isChain_insertMark ih

/-! ### Characters that are kept -/

lemma insertMark_perm (c : Char) (cs : List Char) : (insertMark c cs).Perm (c :: cs) := by
  induction cs with
  | nil => rfl
  | cons d rest ih =>
    rw [insertMark]
    split_ifs
    · exact (ih.cons d).trans (List.Perm.swap c d rest)
    · rfl

/-- Putting marks in order keeps every character. -/
lemma orderMarks_perm (cs : List Char) : (orderMarks cs).Perm cs := by
  induction cs with
  | nil => rfl
  | cons c rest ih => exact (insertMark_perm c _).trans (ih.cons c)

lemma mem_orderMarks : c ∈ orderMarks cs ↔ c ∈ cs := (orderMarks_perm cs).mem_iff

/-! ### Texts put together -/

lemma orderMarks_append (cs ds : List Char) : orderMarks (cs ++ ds) = cs.foldr insertMark (orderMarks ds) :=
  List.foldr_append

lemma orderMarks_append_congr (h : orderMarks ds = orderMarks rest) :
    orderMarks (cs ++ ds) = orderMarks (cs ++ rest) := by
  rw [orderMarks_append, orderMarks_append, h]

/-- No mark is moved past a starter. -/
lemma insertMark_append_starter (hd : combiningClass d = 0) :
    insertMark c (cs ++ d :: rest) = insertMark c cs ++ d :: rest := by
  induction cs with
  | nil => exact insertMark_of_mayFollow (by simp [MayFollow, hd])
  | cons e cs ih =>
    simp only [List.cons_append, insertMark, ih]
    split_ifs <;> rfl

/-- What is in front of a starter and what is behind it are put in order apart. -/
lemma orderMarks_append_starter (hd : combiningClass d = 0) :
    orderMarks (cs ++ d :: rest) = orderMarks cs ++ d :: orderMarks rest := by
  induction cs with
  | nil => exact insertMark_of_mayFollow fun e _ => .inr (by omega)
  | cons e cs ih =>
    calc orderMarks (e :: cs ++ d :: rest) = insertMark e (orderMarks (cs ++ d :: rest)) := rfl
      _ = insertMark e (orderMarks cs ++ d :: orderMarks rest) := by rw [ih]
      _ = insertMark e (orderMarks cs) ++ d :: orderMarks rest := insertMark_append_starter hd

/-! ### Marks of different classes -/

/-- Marks of different classes can be put in order one after the other or the other way round. -/
lemma insertMark_comm (hc : combiningClass c ≠ 0) (hd : combiningClass d ≠ 0)
    (hne : combiningClass c ≠ combiningClass d) :
    insertMark c (insertMark d cs) = insertMark d (insertMark c cs) := by
  induction cs with
  | nil =>
    simp only [insertMark]
    split_ifs <;> first | rfl | omega
  | cons e rest ih =>
    simp only [insertMark]
    split_ifs <;> simp only [insertMark, ih] <;> split_ifs <;> first | rfl | omega

/-- A mark may as well stand in front of marks of lower classes. -/
lemma orderMarks_move (h : ∀ m ∈ marks, combiningClass m ≠ 0 ∧ combiningClass m < combiningClass c) :
    orderMarks (marks ++ c :: rest) = orderMarks (c :: (marks ++ rest)) := by
  induction marks with
  | nil => rfl
  | cons m marks ih =>
    obtain ⟨hm, hmarks⟩ := List.forall_mem_cons.mp h
    calc orderMarks (m :: marks ++ c :: rest) = insertMark m (orderMarks (marks ++ c :: rest)) := rfl
      _ = insertMark m (insertMark c (orderMarks (marks ++ rest))) := by rw [ih hmarks]; rfl
      _ = insertMark c (insertMark m (orderMarks (marks ++ rest))) :=
        insertMark_comm hm.1 (by omega) (by omega)

end OperatorDaemon.Unicode
