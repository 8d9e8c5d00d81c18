import OperatorDaemon.Proofs.Json.Members
import OperatorDaemon.Proofs.Result

/-!
# Values whose members are rearranged

A layout says where in a value there are records, and which names their fields have. The members of a record may be
rearranged at every level: they may stand in another order, and among others that are no fields. What is read stays
the same.
-/

namespace OperatorDaemon.Json

/-! ### Layouts -/

/-- Where there are records in a value. -/
inductive Layout where
  /-- Nowhere. -/
  | plain
  /-- In the items of a list. -/
  | list (item : Layout)
  /-- The value itself is a record of fields with these names, and there may be others in the values of fields. -/
  | record (names : List String) (field : String → Layout)

/-- The members of an object, in another order and among others that are no fields. Values of fields are related, and
other members are kept as they are. -/
def RearrangesMembers (names : List String) (R : String → Tree → Tree → Prop)
    (ms ms' : List (Except Fault String × Tree)) : Prop :=
  ∃ kept extra,
    List.Forall₂ (fun m m' => m'.1 = m.1 ∧ (m'.2 = m.2 ∨ ∃ name ∈ names, m.1 = .ok name ∧ R name m.2 m'.2)) ms kept ∧
    (∀ m ∈ extra, ∃ name, m.1 = .ok name ∧ name ∉ names) ∧
    (kept ++ extra).Perm ms'

/-- A value with its members rearranged. A record may be a list of its fields too, which has no members. -/
def Layout.Rearranges : Layout → Tree → Tree → Prop
  | .plain => fun t t' => t' = t
  | .list item => fun t t' => t' = t ∨
      ∃ ts ts', t = .array ts .closed ∧ t' = .array ts' .closed ∧ List.Forall₂ item.Rearranges ts ts'
  | .record names field => fun t t' => t' = t ∨
      (∃ ms ms', t = .object ms .closed ∧ t' = .object ms' .closed ∧
        RearrangesMembers names (fun name => (field name).Rearranges) ms ms') ∨
      ∃ ts ts', t = .array ts .closed ∧ t' = .array ts' .closed ∧ ts'.length = ts.length ∧
        ∀ i (hi : i < ts.length) (hi' : i < ts'.length), ts'[i] = ts[i] ∨
          ∃ name, names[i]? = some name ∧ (field name).Rearranges ts[i] ts'[i]

/-- Whatever is read from a value is read from it with its members rearranged. -/
def Codec.Follows {α : Type} (c : Codec α) (l : Layout) : Prop :=
  ∀ t t', l.Rearranges t t' → t'.skip = .ok () → ∀ a, c.decode t = .ok a → c.decode t' = .ok a

/-- So are the values of the fields. -/
def Shape.Follows (field : String → Layout) : {τ σ : Type} → Shape τ σ → Prop
  | _, _, .nil => True
  | _, _, .cons f rest => f.codec.Follows (field f.name) ∧ rest.Follows field

variable {α β : Type} {l : Layout}

lemma Layout.Rearranges.eq_null_iff {t t' : Tree} (h : l.Rearranges t t') : t' = .null ↔ t = .null := by
  cases l with
  | plain => rw [show t' = t from h]
  | list item =>
    obtain rfl | ⟨ts, ts', rfl, rfl, -⟩ := h
    · rfl
    · simp
  | record names field =>
    obtain rfl | ⟨ms, ms', rfl, rfl, -⟩ | ⟨ts, ts', rfl, rfl, -⟩ := h
    · rfl
    · simp
    · simp

namespace Codec

variable {c : Codec α}

lemma follows_plain (c : Codec α) : c.Follows .plain := by
  rintro t t' h - a ha
  rw [Layout.Rearranges] at h
  rw [h, ha]

namespace Follows

lemma imap (h : c.Follows l) (of : α → β) (back : β → α) : (c.imap of back).Follows l := by
  intro t t' hrel hskip b hb
  obtain ⟨a, ha, rfl⟩ := map_eq_ok_iff.mp hb
  exact map_eq_ok_iff.mpr ⟨a, h t t' hrel hskip a ha, rfl⟩

/-- A value that may be null is null with its members rearranged if it is null without. -/
lemma option (h : c.Follows l) : c.option.Follows l := by
  intro t t' hrel hskip a ha
  have hnull := hrel.eq_null_iff
  by_cases ht : t = .null
  · rwa [hnull.mpr ht, ← ht]
  · have hsome {t : Tree} (ht : t ≠ .null) : c.option.decode t = (c.decode t).map some := by
      cases t <;> first | rfl | exact absurd rfl ht
    rw [hsome ht] at ha
    rw [hsome (mt hnull.mp ht)]
    obtain ⟨a, hread, rfl⟩ := map_eq_ok_iff.mp ha
    exact map_eq_ok_iff.mpr ⟨a, h t t' hrel hskip a hread, rfl⟩

lemma decodeItems {ts ts' : List Tree} (h : c.Follows l) (hrel : List.Forall₂ l.Rearranges ts ts')
    (hskip : ∀ t ∈ ts', t.skip = .ok ()) {index : Nat} {as : List α} (has : decodeItems c index ts = .ok as) :
    decodeItems c index ts' = .ok as := by
  induction hrel generalizing index as with
  | nil => exact has
  | @cons t t' ts ts' ht hts ih =>
    rw [List.forall_mem_cons] at hskip
    rw [Codec.decodeItems] at has ⊢
    cases hread : c.decode t with
    | error failure => simp [hread] at has
    | ok a =>
      rw [hread] at has
      obtain ⟨rest, hrest, rfl⟩ := map_eq_ok_iff.mp has
      rw [h t t' ht hskip.1 a hread]
      exact map_eq_ok_iff.mpr ⟨rest, ih hskip.2 hrest, rfl⟩

lemma list (h : c.Follows l) : c.list.Follows (.list l) := by
  rintro t t' (rfl | ⟨ts, ts', rfl, rfl, hts⟩) hskip as has
  · exact has
  · simp only [Codec.list, Ending.listFault] at has ⊢
    cases hread : Codec.decodeItems c 0 ts with
    | error failure => simp [hread] at has
    | ok items =>
      rw [hread] at has
      rw [h.decodeItems hts (skip_array hskip) hread]
      exact has

end Follows

end Codec

/-! ### Records -/

/-- Fields without records in them need not be looked into. -/
lemma Shape.follows_plain {τ σ : Type} (s : Shape τ σ) : s.Follows fun _ => .plain := by
  induction s with
  | nil => trivial
  | cons f rest ih => exact ⟨Codec.follows_plain _, ih⟩

namespace Shape.Follows

variable {τ σ : Type} {s : Shape τ σ} {field : String → Layout}

lemma accept (h : s.Follows field) {name : String} (hname : name ∈ s.names) {t t' : Tree}
    (hrel : (field name).Rearranges t t') (hskip : t'.skip = .ok ()) {x y : σ} (hy : s.accept name t x = .ok y) :
    s.accept name t' x = .ok y := by
  induction s with
  | nil => cases hname
  | cons f rest ih =>
    obtain ⟨hfield, hrest⟩ := h
    rw [accept_cons_eq_ok] at hy ⊢
    obtain ⟨rfl, hx, v, hv, rfl⟩ | ⟨hne, hslot, haccept⟩ := hy
    · exact .inl ⟨rfl, hx, v, hfield t t' hrel hskip v hv, rfl⟩
    · exact .inr ⟨hne, hslot, ih hrest (List.mem_of_ne_of_mem hne hname) haccept⟩

/-- Members whose values are rearranged are taken in one after the other. -/
lemma acceptAll_kept (h : s.Follows field) {ms kept : List (Except Fault String × Tree)}
    (hkept : List.Forall₂ (fun m m' => m'.1 = m.1 ∧ (m'.2 = m.2 ∨
      ∃ name ∈ s.names, m.1 = .ok name ∧ (field name).Rearranges m.2 m'.2)) ms kept)
    (hskip : ∀ m ∈ kept, m.2.skip = .ok ()) {x y : σ} (hy : s.acceptAll ms x = .ok y) : s.acceptAll kept x = .ok y := by
  induction hkept generalizing x with
  | nil => exact hy
  | @cons m m' ms kept hm hms ih =>
    rw [List.forall_mem_cons] at hskip
    obtain ⟨name, z, hname, haccept, hrest⟩ := acceptAll_cons_eq_ok.mp hy
    obtain ⟨hsame, hvalue⟩ := hm
    refine acceptAll_cons_eq_ok.mpr ⟨name, z, hsame.trans hname, ?_, ih hskip.2 hrest⟩
    obtain hvalue | ⟨name', hmem, hname', hrel⟩ := hvalue
    · rw [hvalue, haccept]
    · rw [hname] at hname'
      cases hname'
      exact h.accept hmem hrel hskip.1 haccept

lemma acceptAll (h : s.Follows field) {ms ms' : List (Except Fault String × Tree)}
    (hrel : RearrangesMembers s.names (fun name => (field name).Rearranges) ms ms')
    (hskip : ∀ m ∈ ms', m.2.skip = .ok ()) {x y : σ} (hy : s.acceptAll ms x = .ok y) : s.acceptAll ms' x = .ok y := by
  obtain ⟨kept, extra, hkept, hextra, hperm⟩ := hrel
  have hskipAll : ∀ m ∈ kept ++ extra, m.2.skip = .ok () := fun m hm => hskip m (hperm.mem_iff.mp hm)
  rw [List.forall_mem_append] at hskipAll
  refine s.acceptAll_perm hperm ?_
  rw [acceptAll_append, h.acceptAll_kept hkept hskipAll.1 hy]
  exact s.acceptAll_of_notMem hextra hskipAll.2 y

lemma ofItems (h : s.Follows field) {ts ts' : List Tree} (hlength : ts'.length = ts.length)
    (hrel : ∀ i (hi : i < ts.length) (hi' : i < ts'.length), ts'[i] = ts[i] ∨
      ∃ name, s.names[i]? = some name ∧ (field name).Rearranges ts[i] ts'[i])
    (hskip : ∀ t ∈ ts', t.skip = .ok ()) {expected : String} {index : Nat} {vs : τ}
    (hvs : s.ofItems expected index .closed ts = .ok vs) : s.ofItems expected index .closed ts' = .ok vs := by
  induction s generalizing ts ts' index with
  | nil =>
    cases ts with
    | nil => rwa [List.eq_nil_of_length_eq_zero hlength]
    | cons t ts => cases hvs
  | cons f rest ih =>
    obtain ⟨hfield, hrest⟩ := h
    cases ts with
    | nil => rwa [List.eq_nil_of_length_eq_zero hlength]
    | cons t ts =>
      obtain ⟨t', ts', rfl⟩ := List.exists_cons_of_length_eq_add_one hlength
      rw [List.forall_mem_cons] at hskip
      rw [Shape.ofItems] at hvs ⊢
      cases hread : f.codec.decode t with
      | error failure => simp [hread] at hvs
      | ok v =>
        rw [hread] at hvs
        obtain ⟨vs, hitems, rfl⟩ := map_eq_ok_iff.mp hvs
        have hread' : f.codec.decode t' = .ok v := by
          obtain hsame | ⟨name, hname, ht⟩ := hrel 0 (Nat.zero_lt_succ _) (Nat.zero_lt_succ _)
          · rwa [show t' = t from hsame]
          · cases hname
            exact hfield t t' ht hskip.1 v hread
        have hrel' (i : Nat) (hi : i < ts.length) (hi' : i < ts'.length) :=
          hrel (i + 1) (Nat.succ_lt_succ hi) (Nat.succ_lt_succ hi')
        rw [hread']
        exact map_eq_ok_iff.mpr ⟨vs, ih hrest (Nat.succ.inj hlength) hrel' hskip.2 hitems, rfl⟩

end Shape.Follows

lemma Codec.Follows.record {τ σ : Type} (title : String) {s : Shape τ σ} {field : String → Layout}
    (h : s.Follows field) : (Codec.record title s).Follows (.record s.names field) := by
  rintro t t' (rfl | ⟨ms, ms', rfl, rfl, hrel⟩ | ⟨ts, ts', rfl, rfl, hlength, hrel⟩) hskip a ha
  · exact ha
  · simp only [Codec.record, Ending.objectFault] at ha ⊢
    cases hslots : s.acceptAll ms s.empty with
    | error failure => simp [hslots] at ha
    | ok slots =>
      rw [hslots] at ha
      rw [h.acceptAll hrel (skip_object hskip) hslots]
      exact ha
  · exact h.ofItems hlength hrel (skip_array hskip) ha

end OperatorDaemon.Json
