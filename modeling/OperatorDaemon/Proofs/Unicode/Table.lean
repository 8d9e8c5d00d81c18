import Mathlib.Data.List.Chain
import Mathlib.Data.Nat.Bitwise
import OperatorDaemon.Unicode.Packed

/-!
# Tables taken apart

What is found in a table is one of its runs, triples or entries, so that a property of everything that can be
found is one of a list. Two views of a table make it fast to check many characters at once: sets of characters as
the bits of numbers, and entries as a search tree.
-/

namespace OperatorDaemon.Unicode

variable {n a b image : Nat} {fields : List Nat}

/-! ### Runs and triples -/

/-- The triples of a table. -/
def triples : List Nat → List (Nat × Nat × Nat)
  | a :: b :: c :: rest => (a, b, c) :: triples rest
  | _ => []

/-- The quadruples of a table. -/
def quadruples : List Nat → List (Nat × Nat × Nat × Nat)
  | a :: b :: c :: d :: rest => (a, b, c, d) :: quadruples rest
  | _ => []

lemma mem_triples_of_imageInRuns (h : imageInRuns n fields = some image) :
    ∃ first last start, (first, last, start) ∈ triples fields ∧ first ≤ n ∧ n ≤ last ∧
      image = start + (n - first) := by
  fun_induction imageInRuns n fields with
  | case1 first last start rest hlt => cases h
  | case2 first last start rest hge hle =>
    cases h
    exact ⟨first, last, start, List.mem_cons_self, Nat.le_of_not_lt hge, hle, rfl⟩
  | case3 first last start rest hge hgt ih =>
    obtain ⟨first', last', start', hmem, hrun⟩ := ih h
    exact ⟨first', last', start', List.mem_cons_of_mem _ hmem, hrun⟩
  | case4 => cases h

lemma mem_triples_of_thirdOf {c : Nat} (h : thirdOf a b fields = some c) : (a, b, c) ∈ triples fields := by
  fun_induction thirdOf a b fields with
  | case1 => cases h
  | case2 first second third rest hge heq =>
    obtain ⟨rfl, rfl⟩ := heq
    cases h
    exact List.mem_cons_self
  | case3 first second third rest hge hne ih => exact List.mem_cons_of_mem _ (ih h)
  | case4 => cases h

lemma mem_quadruples_of_imageInSteps (h : imageInSteps n fields = some image) :
    ∃ first last step start, (first, last, step, start) ∈ quadruples fields ∧ first ≤ n ∧ n ≤ last ∧
      (n - first) % step = 0 ∧ image = start + (n - first) := by
  fun_induction imageInSteps n fields with
  | case1 => cases h
  | case2 first last step start rest hge hrun =>
    cases h
    exact ⟨first, last, step, start, List.mem_cons_self, Nat.le_of_not_lt hge, hrun.1, hrun.2, rfl⟩
  | case3 first last step start rest hge hrun ih =>
    obtain ⟨first', last', step', start', hmem, hrun⟩ := ih h
    exact ⟨first', last', step', start', List.mem_cons_of_mem _ hmem, hrun⟩
  | case4 => cases h

/-- In runs that are sorted by their first number, every number of a run is found. -/
lemma isSome_imageInSteps (hsorted : (quadruples fields).Pairwise fun run run' => run.1 < run'.1)
    {first last step start : Nat} (hmem : (first, last, step, start) ∈ quadruples fields) (hfirst : first ≤ n)
    (hlast : n ≤ last) (hstep : (n - first) % step = 0) : (imageInSteps n fields).isSome := by
  fun_induction imageInSteps n fields with
  | case1 first' last' step' start' rest hlt =>
    obtain ⟨hhead, -⟩ := List.pairwise_cons.mp hsorted
    obtain heq | hmem := List.mem_cons.mp hmem
    · cases heq
      omega
    · have hlt : first' < first := hhead _ hmem
      omega
  | case2 => rfl
  | case3 first' last' step' start' rest hge hrun ih =>
    obtain heq | hmem := List.mem_cons.mp hmem
    · cases heq
      exact absurd ⟨hlast, hstep⟩ hrun
    · exact ih (List.pairwise_cons.mp hsorted).2 hmem
  | case4 fields hshape =>
    rw [quadruples.eq_2 _ hshape] at hmem
    cases hmem

/-! ### Entries -/

/-- The entries of a table. The flag says that the list starts within an entry that is passed over. -/
def entries (within : Bool) : List Nat → List (Nat × List Nat)
  | [] => []
  | field :: rest =>
    if within then entries (field != 0) rest
    else (field, rest.takeWhile (· != 0)) :: entries true rest

lemma mem_entries_of_entryOf {within : Bool} {entry : List Nat} (h : entryOf n within fields = some entry) :
    (n, entry) ∈ entries within fields := by
  induction fields generalizing within with
  | nil => cases h
  | cons field rest ih =>
    rw [entryOf] at h
    rw [entries]
    split_ifs at h ⊢ with hwithin hfield hlt
    · exact ih h
    · cases h
      exact hfield ▸ List.mem_cons_self
    · exact List.mem_cons_of_mem _ (ih h)

/-- In entries that are sorted, every one is found. -/
lemma entryOf_of_mem {within : Bool} {entry : List Nat}
    (hsorted : (entries within fields).Pairwise fun e e' => e.1 < e'.1)
    (hmem : (n, entry) ∈ entries within fields) : entryOf n within fields = some entry := by
  induction fields generalizing within with
  | nil => cases hmem
  | cons field rest ih =>
    rw [entryOf]
    rw [entries] at hsorted hmem
    cases within with
    | true => exact ih hsorted hmem
    | false =>
      obtain ⟨hhead, hrest⟩ := List.pairwise_cons.mp hsorted
      obtain heq | hmem := List.mem_cons.mp hmem
      · cases heq
        simp
      · have hlt : field < n := hhead _ hmem
        rw [if_neg Bool.false_ne_true, if_neg (by omega), if_neg (by omega)]
        exact ih hrest hmem

/-- Whether the keys of entries ascend. -/
def ascends {α : Type} : List (Nat × α) → Bool
  | e :: e' :: rest => e.1 < e'.1 && ascends (e' :: rest)
  | _ => true

lemma pairwise_of_ascends {α : Type} {es : List (Nat × α)} (h : ascends es) :
    es.Pairwise fun e e' => e.1 < e'.1 := by
  have htrans : IsTrans (Nat × α) fun e e' => e.1 < e'.1 := ⟨fun _ _ _ => Nat.lt_trans⟩
  refine List.isChain_iff_pairwise.mp ?_
  fun_induction ascends es with
  | case1 e e' rest ih =>
    rw [Bool.and_eq_true, decide_eq_true_iff] at h
    exact List.isChain_cons_cons.mpr ⟨h.1, ih h.2⟩
  | case2 es hshape =>
    match es with
    | [] => exact List.isChain_nil
    | [e] => exact List.isChain_singleton e
    | e :: e' :: rest => exact absurd rfl (hshape e e' rest)

/-! ### Bits -/

/-- The number that has the bits of several numbers. -/
def union (sets : List Nat) : Nat := sets.foldr (· ||| ·) 0

lemma testBit_union {sets : List Nat} : (union sets).testBit n ↔ ∃ bits ∈ sets, bits.testBit n := by
  induction sets with
  | nil => simp [union]
  | cons bits sets ih =>
    have hunion : union (bits :: sets) = bits ||| union sets := rfl
    rw [hunion, Nat.testBit_or, Bool.or_eq_true, ih, List.exists_mem_cons_iff]

/-- The number whose bits are set at some places. -/
def bitsAt (ns : List Nat) : Nat := union (ns.map (1 <<< ·))

lemma testBit_bitsAt {ns : List Nat} : (bitsAt ns).testBit n ↔ n ∈ ns := by
  simp [bitsAt, testBit_union, Nat.one_shiftLeft, Nat.testBit_two_pow]

/-- The number whose bits are set at a run of places. -/
def runBits (first count : Nat) : Nat := (2 ^ count - 1) <<< first

lemma testBit_runBits {first count : Nat} :
    (runBits first count).testBit n ↔ first ≤ n ∧ n < first + count := by
  rw [runBits, Nat.testBit_shiftLeft, Nat.testBit_two_pow_sub_one, Bool.and_eq_true, decide_eq_true_iff,
    decide_eq_true_iff]
  omega

/-- The bits of a run of places, moved to another place. -/
def movedBits (bits first count start : Nat) : Nat := (bits >>> first % 2 ^ count) <<< start

lemma testBit_movedBits {bits first count start : Nat} (hfirst : first ≤ n) (hlast : n < first + count)
    (h : bits.testBit n) : (movedBits bits first count start).testBit (start + (n - first)) := by
  rw [movedBits, Nat.testBit_shiftLeft, Nat.testBit_mod_two_pow, Nat.testBit_shiftRight, Nat.add_sub_cancel_left,
    Nat.add_sub_cancel' hfirst, h]
  simp only [ge_iff_le, Nat.le_add_right, decide_true, Bool.true_and, Bool.and_true, decide_eq_true_iff]
  omega

/-- Numbers without common bits have no bit in common. -/
lemma testBit_of_disjoint {bits bits' : Nat} (h : bits &&& bits' = 0) (hn : bits.testBit n) :
    bits'.testBit n = false := by
  have hboth : (bits &&& bits').testBit n = false := by rw [h, Nat.zero_testBit]
  rwa [Nat.testBit_and, hn, Bool.true_and] at hboth

/-! ### Search trees -/

/-- A search tree of entries. -/
inductive Index where
  /-- No entries. -/
  | nil
  /-- An entry, with those in front of it and those behind it. -/
  | node (front : Index) (key : Nat) (entry : List Nat) (behind : Index)

namespace Index

/-- The tree of some depth that holds the first entries, and the entries for which it has no room. -/
def build : (depth : Nat) → List (Nat × List Nat) → Index × List (Nat × List Nat)
  | 0, es => (nil, es)
  | depth + 1, es =>
    match build depth es with
    | (front, []) => (front, [])
    | (front, e :: es) =>
      let behind := build depth es
      (node front e.1 e.2 behind.1, behind.2)

/-- Look up an entry. -/
def find? (n : Nat) : Index → Option (List Nat)
  | nil => none
  | node front key entry behind =>
    if n < key then front.find? n else if key < n then behind.find? n else some entry

/-- The entries of a tree. -/
def toList : Index → List (Nat × List Nat)
  | nil => []
  | node front key entry behind => front.toList ++ (key, entry) :: behind.toList

lemma mem_toList_of_find? {index : Index} {entry : List Nat} (h : index.find? n = some entry) :
    (n, entry) ∈ index.toList := by
  induction index with
  | nil => cases h
  | node front key entry' behind ihfront ihbehind =>
    rw [find?] at h
    rw [toList, List.mem_append, List.mem_cons]
    split_ifs at h with hlt hgt
    · exact .inl (ihfront h)
    · exact .inr (.inr (ihbehind h))
    · cases h
      exact .inr (.inl (by rw [Nat.le_antisymm (Nat.le_of_not_lt hgt) (Nat.le_of_not_lt hlt)]))

/-- A tree holds the entries that it has been built from, as far as there is room. -/
lemma toList_build (depth : Nat) (es : List (Nat × List Nat)) :
    (build depth es).1.toList ++ (build depth es).2 = es := by
  induction depth generalizing es with
  | zero => rfl
  | succ depth ih =>
    have hfront := ih es
    rw [build]
    rcases hbuild : build depth es with ⟨front, _ | ⟨e, rest⟩⟩
    · rw [hbuild] at hfront
      exact hfront
    · rw [hbuild] at hfront
      calc _ = front.toList ++ e :: ((build depth rest).1.toList ++ (build depth rest).2) := by simp [toList]
        _ = front.toList ++ e :: rest := by rw [ih rest]
        _ = es := hfront

lemma mem_of_find? {depth : Nat} {es : List (Nat × List Nat)} {entry : List Nat}
    (h : (build depth es).1.find? n = some entry) : (n, entry) ∈ es := by
  rw [← toList_build depth es]
  exact List.mem_append_left _ (mem_toList_of_find? h)

end Index

end OperatorDaemon.Unicode
