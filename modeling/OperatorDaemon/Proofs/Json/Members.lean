import Mathlib.Data.List.Perm.Basic
import Mathlib.Tactic.Common
import OperatorDaemon.Json.Record

/-!
# Members in any order

The members of an object are taken in one after the other, but what has been taken in at the end does not depend on
their order. Members that are no fields leave nothing behind.
-/

namespace OperatorDaemon.Json

/-! ### Passing over -/

lemma skip_of_mem_items {ts : List Tree} (h : skipItems ts = .ok ()) {t : Tree} (ht : t ∈ ts) : t.skip = .ok () := by
  induction ts with
  | nil => cases ht
  | cons t' ts ih =>
    unfold skipItems at h
    split at h
    · cases h
    · rename_i hskip
      rcases List.mem_cons.mp ht with rfl | ht
      · exact hskip
      · exact ih h ht

lemma skip_of_mem_members {ms : List (Except Fault String × Tree)} (h : skipMembers ms = .ok ())
    {m : Except Fault String × Tree} (hm : m ∈ ms) : m.2.skip = .ok () := by
  induction ms with
  | nil => cases hm
  | cons m' ms ih =>
    obtain ⟨name, t⟩ := m'
    unfold skipMembers at h
    split at h
    · cases h
    · split at h
      · cases h
      · rename_i hskip
        rcases List.mem_cons.mp hm with rfl | hm
        · exact hskip
        · exact ih h hm

/-- A list that can be passed over is complete, and so are its items. -/
lemma skip_array {ts : List Tree} {ending : Ending} (h : (Tree.array ts ending).skip = .ok ()) :
    ∀ t ∈ ts, t.skip = .ok () := by
  unfold Tree.skip at h
  split at h
  · cases h
  · rename_i hitems
    exact fun t => skip_of_mem_items hitems

/-- So are the values in an object. -/
lemma skip_object {ms : List (Except Fault String × Tree)} {ending : Ending}
    (h : (Tree.object ms ending).skip = .ok ()) : ∀ m ∈ ms, m.2.skip = .ok () := by
  unfold Tree.skip at h
  split at h
  · cases h
  · rename_i hmembers
    exact fun m => skip_of_mem_members hmembers

/-! ### Taking in -/

namespace Shape

variable {τ σ : Type}

lemma acceptAll_append (s : Shape τ σ) (ms ms' : List (Except Fault String × Tree)) (x : σ) :
    s.acceptAll (ms ++ ms') x = (s.acceptAll ms x).bind (s.acceptAll ms') := by
  induction ms generalizing x with
  | nil => rfl
  | cons m ms ih =>
    obtain ⟨name, t⟩ := m
    cases name with
    | error fault => rfl
    | ok name =>
      simp only [List.cons_append, Shape.acceptAll]
      cases s.accept name t x with
      | error failure => rfl
      | ok y => exact ih y

/-- A member is taken in if its name can be read and it is accepted. -/
lemma acceptAll_cons_eq_ok {s : Shape τ σ} {m : Except Fault String × Tree} {ms : List (Except Fault String × Tree)}
    {x y : σ} : s.acceptAll (m :: ms) x = .ok y ↔
      ∃ name z, m.1 = .ok name ∧ s.accept name m.2 x = .ok z ∧ s.acceptAll ms z = .ok y := by
  obtain ⟨name, t⟩ := m
  cases name with
  | error fault => simp [acceptAll]
  | ok name => cases haccept : s.accept name t x <;> simp [acceptAll, haccept]

/-- What is no field leaves nothing behind. -/
lemma accept_of_notMem (s : Shape τ σ) {name : String} (hname : name ∉ s.names) {t : Tree} (ht : t.skip = .ok ())
    (x : σ) : s.accept name t x = .ok x := by
  induction s with
  | nil => simp only [accept, ht]
  | cons field rest ih =>
    obtain ⟨slot, slots⟩ := x
    rw [names, List.mem_cons, not_or] at hname
    simp only [accept, if_neg hname.1, ih hname.2, Except.map]

lemma accept_cons_eq_ok {β : Type} {field : RecordField β} {rest : Shape τ σ} {name : String} {t : Tree}
    {x y : Option β × σ} : (cons field rest).accept name t x = .ok y ↔
      (name = field.name ∧ x.1 = none ∧ ∃ v, field.codec.decode t = .ok v ∧ y = (some v, x.2)) ∨
        (name ≠ field.name ∧ y.1 = x.1 ∧ rest.accept name t x.2 = .ok y.2) := by
  obtain ⟨slot, slots⟩ := x
  obtain ⟨slot', slots'⟩ := y
  rw [accept]
  by_cases hname : name = field.name
  · cases slot <;> cases field.codec.decode t <;> simp [hname, eq_comm]
  · cases rest.accept name t slots <;> simp [hname, Except.map, eq_comm]

/-- Two members may be taken in the other way round. -/
lemma accept_comm (s : Shape τ σ) {name name' : String} {t t' : Tree} {x y z : σ} (h : s.accept name t x = .ok y)
    (h' : s.accept name' t' y = .ok z) : ∃ y', s.accept name' t' x = .ok y' ∧ s.accept name t y' = .ok z := by
  induction s with
  | nil => exact ⟨(), h', h⟩
  | cons field rest ih =>
    rw [accept_cons_eq_ok] at h h'
    rcases h with ⟨hname, hx, v, hv, rfl⟩ | ⟨hname, hslot, hrest⟩
    · rcases h' with ⟨-, hnone, -⟩ | ⟨hname', hslot', hrest'⟩
      · cases hnone
      · exact ⟨(x.1, z.2), accept_cons_eq_ok.mpr (.inr ⟨hname', rfl, hrest'⟩),
          accept_cons_eq_ok.mpr (.inl ⟨hname, hx, v, hv, Prod.ext hslot' rfl⟩)⟩
    · rcases h' with ⟨hname', hy, v, hv, rfl⟩ | ⟨hname', hslot', hrest'⟩
      · exact ⟨(some v, x.2), accept_cons_eq_ok.mpr (.inl ⟨hname', hslot ▸ hy, v, hv, rfl⟩),
          accept_cons_eq_ok.mpr (.inr ⟨hname, rfl, hrest⟩)⟩
      · obtain ⟨y', hfirst, hsecond⟩ := ih hrest hrest'
        exact ⟨(x.1, y'), accept_cons_eq_ok.mpr (.inr ⟨hname', rfl, hfirst⟩),
          accept_cons_eq_ok.mpr (.inr ⟨hname, hslot'.trans hslot, hsecond⟩)⟩

/-- Members may be taken in in any order. -/
lemma acceptAll_perm (s : Shape τ σ) {ms ms' : List (Except Fault String × Tree)} (h : ms.Perm ms') {x y : σ}
    (hy : s.acceptAll ms x = .ok y) : s.acceptAll ms' x = .ok y := by
  induction h generalizing x y with
  | nil => exact hy
  | cons m h ih =>
    obtain ⟨name, z, hname, haccept, hrest⟩ := acceptAll_cons_eq_ok.mp hy
    exact acceptAll_cons_eq_ok.mpr ⟨name, z, hname, haccept, ih hrest⟩
  | swap m m' ms =>
    obtain ⟨name', z', hname', haccept', hrest'⟩ := acceptAll_cons_eq_ok.mp hy
    obtain ⟨name, z, hname, haccept, hrest⟩ := acceptAll_cons_eq_ok.mp hrest'
    obtain ⟨y', hfirst, hsecond⟩ := s.accept_comm haccept' haccept
    exact acceptAll_cons_eq_ok.mpr ⟨name, y', hname, hfirst,
      acceptAll_cons_eq_ok.mpr ⟨name', z, hname', hsecond, hrest⟩⟩
  | trans _ _ ih ih' => exact ih' (ih hy)

/-- Members that are no fields leave nothing behind. -/
lemma acceptAll_of_notMem (s : Shape τ σ) {ms : List (Except Fault String × Tree)}
    (hnames : ∀ m ∈ ms, ∃ name, m.1 = .ok name ∧ name ∉ s.names) (hskip : ∀ m ∈ ms, m.2.skip = .ok ()) (x : σ) :
    s.acceptAll ms x = .ok x := by
  induction ms with
  | nil => rfl
  | cons m ms ih =>
    rw [List.forall_mem_cons] at hnames hskip
    obtain ⟨⟨name, hname, hnotMem⟩, hnames⟩ := hnames
    exact acceptAll_cons_eq_ok.mpr ⟨name, x, hname, s.accept_of_notMem hnotMem hskip.1 x, ih hnames hskip.2⟩

end Shape

end OperatorDaemon.Json
