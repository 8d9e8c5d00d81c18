import OperatorDaemon.Json.Record
import OperatorDaemon.Proofs.Json.Writing
import OperatorDaemon.Proofs.Text.Hex

/-!
# Codecs that read what they write

A codec is faithful if it reads back every value from the tree of what it writes. The codecs of scalars are,
and each way to build a codec from others keeps them so.
-/

namespace OperatorDaemon.Json

namespace Codec

variable {α β : Type}

/-- Every value is read back from what is written for it. -/
def Faithful (c : Codec α) : Prop :=
  ∀ a, c.decode (c.encode a).tree = .ok a

/-- Nothing is written as null. -/
def NeverNull (c : Codec α) : Prop :=
  ∀ a, (c.encode a).tree ≠ .null

/-- The text that a codec writes for what it reads from a text. -/
def normalize (c : Codec α) (bs : List UInt8) : Except Failure (List UInt8) :=
  (c.readBytes bs).map fun a => Utf8.bytes (c.encode a).text

namespace Faithful

/-- The text of what a faithful codec writes is read as the value. -/
theorem readBytes_text_encode {c : Codec α} (h : c.Faithful) (a : α) :
    c.readBytes (Utf8.bytes (c.encode a).text) = .ok a := by
  rw [readBytes_text, h a]

/-- Writing once more what was read changes nothing. -/
theorem normalize_normalize {c : Codec α} (h : c.Faithful) (bs : List UInt8) :
    (c.normalize bs).bind c.normalize = c.normalize bs := by
  rw [normalize]
  cases c.readBytes bs with
  | error failure => rfl
  | ok a =>
    simp only [Except.map, Except.bind, normalize, h.readBytes_text_encode a]

/-! ### Scalars -/

lemma string : Codec.string.Faithful := by
  intro s
  rfl

lemma bool : Codec.bool.Faithful := by
  intro b
  rfl

/-- A natural number within the limit is read back. -/
lemma decodeNatural_tree {limit n : Nat} (hn : n ≤ limit) (hlimit : limit ≤ maxNatural)
    (name : String) : decodeNatural limit name (Value.number n).tree = .ok n := by
  simp only [Value.tree, decodeNatural, value_ofNat (Nat.le_trans hn hlimit), if_pos hn]

lemma uint32 : Codec.uint32.Faithful := by
  intro n
  have hread := decodeNatural_tree (Nat.le_of_lt_succ n.toNat_lt) (by decide) "u32"
  simp only [Codec.uint32, hread, Except.map, UInt32.ofNat_toNat]

lemma uint64 : Codec.uint64.Faithful := by
  intro n
  have hread := decodeNatural_tree (Nat.le_of_lt_succ n.toNat_lt) (by decide) "u64"
  simp only [Codec.uint64, hread, Except.map, UInt64.ofNat_toNat]

lemma salt : Codec.salt.Faithful := by
  intro s
  simp only [Codec.salt, Value.tree, Salt.parse_hex]

lemma fixedBytes (n : Nat) : (Codec.fixedBytes n).Faithful := by
  intro b
  simp only [Codec.fixedBytes, Value.tree, FixedBytes.parse_hex]

/-! ### Lists, options and enumerations -/

lemma decodeItems_treeItems {c : Codec α} (h : c.Faithful) (index : Nat) (as : List α) :
    decodeItems c index (treeItems (as.map c.encode)) = .ok as := by
  induction as generalizing index with
  | nil => rfl
  | cons a as ih =>
    simp only [List.map_cons, treeItems, decodeItems, h a, ih, Except.map]

lemma list {c : Codec α} (h : c.Faithful) : (Codec.list c).Faithful := by
  intro as
  simp only [Codec.list, Value.tree, h.decodeItems_treeItems, Ending.listFault]

lemma option {c : Codec α} (h : c.Faithful) (hnull : c.NeverNull) : (Codec.option c).Faithful := by
  intro a
  cases a with
  | none => rfl
  | some a =>
    have hne := hnull a
    simp only [Codec.option, h a, Except.map]

lemma imap {c : Codec α} (h : c.Faithful) {of : α → β} {back : β → α}
    (hback : ∀ b, of (back b) = b) : (c.imap of back).Faithful := by
  intro b
  simp only [Codec.imap, h (back b), Except.map, hback]

lemma enumeration {variants : List (String × α)} {nameOf : α → String}
    (h : ∀ a, variants.lookup (nameOf a) = some a) : (Codec.enumeration variants nameOf).Faithful := by
  intro a
  simp only [Codec.enumeration, Value.tree, variantOf, h a]

end Faithful

end Codec

/-! ### Records -/

namespace Shape

variable {β τ σ : Type}

/-- The fields are read back, those that are not written have a value of their own, and no two fields share
a name. -/
inductive Faithful : {τ σ : Type} → Shape τ σ → Prop where
  | nil : Faithful .nil
  | cons {β τ σ : Type} {field : RecordField β} {rest : Shape τ σ} (hfield : field.codec.Faithful)
      (habsent : ∀ v, field.omitted v → field.absent = some v) (hname : field.name ∉ rest.names)
      (hrest : rest.Faithful) : Faithful (.cons field rest)

/-- What has been taken in once all members of a record have been. -/
def slotsOf : {τ σ : Type} → Shape τ σ → τ → σ
  | _, _, .nil, _ => ()
  | _, _, .cons field rest, (v, vs) => (if field.omitted v then none else some v, rest.slotsOf vs)

/-- What is written for a record are fields of it. -/
lemma mem_names_of_mem_encode (s : Shape τ σ) (vs : τ) {m : String × Value} (hm : m ∈ s.encode vs) :
    m.1 ∈ s.names := by
  induction s with
  | nil => cases hm
  | cons field rest ih =>
    obtain ⟨v, vs⟩ := vs
    rw [encode] at hm
    split at hm
    · exact List.mem_cons_of_mem _ (ih vs hm)
    · rcases List.mem_cons.mp hm with rfl | hm
      · exact List.mem_cons_self
      · exact List.mem_cons_of_mem _ (ih vs hm)

/-- Members with other names do not touch the first field. -/
lemma acceptAll_cons (field : RecordField β) (rest : Shape τ σ) {ms : List (String × Value)}
    (hms : ∀ m ∈ ms, m.1 ≠ field.name) (slot : Option β) (slots : σ) :
    (cons field rest).acceptAll (treeMembers ms) (slot, slots) =
      (rest.acceptAll (treeMembers ms) slots).map fun slots => (slot, slots) := by
  induction ms generalizing slots with
  | nil => rfl
  | cons m ms ih =>
    obtain ⟨name, v⟩ := m
    have hname : name ≠ field.name := hms (name, v) List.mem_cons_self
    have htail := ih fun m hm => hms m (List.mem_cons_of_mem _ hm)
    simp only [treeMembers, acceptAll, accept, if_neg hname]
    cases rest.accept name v.tree slots with
    | error failure => rfl
    | ok slots => exact htail slots

namespace Faithful

/-- The members of a record are taken in one by one. -/
lemma acceptAll_encode {s : Shape τ σ} (h : s.Faithful) (vs : τ) :
    s.acceptAll (treeMembers (s.encode vs)) s.empty = .ok (s.slotsOf vs) := by
  induction h with
  | nil => rfl
  | @cons β τ σ field rest hfield habsent hname hrest ih =>
    obtain ⟨v, vs⟩ := vs
    have hne (m : String × Value) (hm : m ∈ rest.encode vs) : m.1 ≠ field.name := by
      rintro hfield
      exact hname (hfield ▸ rest.mem_names_of_mem_encode vs hm)
    simp only [encode, slotsOf, empty]
    by_cases homitted : field.omitted v
    · simp only [if_pos homitted]
      rw [acceptAll_cons field rest hne, ih]
      rfl
    · simp only [if_neg homitted]
      simp only [treeMembers, acceptAll, accept, if_true, Option.isSome_none, hfield v]
      exact (acceptAll_cons field rest hne (some v) rest.empty).trans (by rw [ih]; rfl)

/-- A record is what has been taken in, with the values of the fields that were not written. -/
lemma finish_slotsOf {s : Shape τ σ} (h : s.Faithful) (vs : τ) : s.finish (s.slotsOf vs) = .ok vs := by
  induction h with
  | nil => rfl
  | @cons β τ σ field rest hfield habsent hname hrest ih =>
    obtain ⟨v, vs⟩ := vs
    by_cases homitted : field.omitted v
    · simp only [slotsOf, finish, if_pos homitted, habsent v homitted, ih, Except.map]
      rfl
    · simp only [slotsOf, finish, if_neg homitted, ih, Except.map]
      rfl

end Faithful

end Shape

lemma Codec.Faithful.record {τ σ : Type} (title : String) {s : Shape τ σ} (h : s.Faithful) :
    (Codec.record title s).Faithful := by
  intro vs
  simp only [Codec.record, Value.tree, h.acceptAll_encode, Ending.objectFault, h.finish_slotsOf]

lemma Codec.NeverNull.record {τ σ : Type} (title : String) (s : Shape τ σ) :
    (Codec.record title s).NeverNull := by
  intro vs
  simp [Codec.record, Value.tree]

end OperatorDaemon.Json
