import OperatorDaemon.Proofs.Json.Members
import OperatorDaemon.Proofs.Json.Writing
import OperatorDaemon.Service.Reply

/-!
# What refusals say

A reply without a status of success is an error that its key, or else its status, decides. The data of its
envelope has no part in it, whatever data a call expects and whatever data there is. A reply with a status of
success is data, or it makes no sense; it is never one of those errors.
-/

namespace OperatorDaemon.Service

open Json (Codec Fault IsStringBody Part Shape Spells Symbols Tree dropSpace isSpace)

/-! ### Errors and their keys -/

/-- The keys that have an error of their own. -/
def keyedErrors : List (String × Error) :=
  [("invalid_session", .invalidSession), ("unregistered_node", .unregisteredNode),
   ("already_registered", .alreadyRegistered), ("not_whitelisted", .notWhitelisted),
   ("wallet_not_loaded", .walletNotLoaded), ("invalid_permissions", .invalidPermissions),
   ("vault_not_found", .vaultNotFound),
   ("deposit_root_already_assigned", .depositRootAlreadyAssigned),
   ("node_unauthorized", .nodeUnauthorized), ("incorrect_node_address", .incorrectNodeAddress)]

/-- The error that a refusal is: that of its key, or for want of a key and with the status for missing
credentials an invalid session, or one that repeats what was said. -/
inductive Refuses (status : Nat) (body : List UInt8) : Error → Prop where
  /-- The key has an error of its own. -/
  | keyed {envelope : Envelope Unit} {error : Error}
      (h : (Envelope.codec ignoredCodec).readBytes body = .ok envelope)
      (hkey : keyedErrors.lookup envelope.error = some error) : Refuses status body error
  /-- There is no key, and the status speaks for itself. -/
  | unauthorized {envelope : Envelope Unit}
      (h : (Envelope.codec ignoredCodec).readBytes body = .ok envelope) (hkey : envelope.error = "")
      (hstatus : status = 401) : Refuses status body .invalidSession
  /-- Neither the key nor the status has an error of its own. -/
  | other {envelope : Envelope Unit}
      (h : (Envelope.codec ignoredCodec).readBytes body = .ok envelope)
      (hkey : keyedErrors.lookup envelope.error = none)
      (hstatus : ¬ (envelope.error = "" ∧ status = 401)) :
      Refuses status body (.api status envelope.error envelope.message)
  /-- The body is no envelope, and the status speaks for itself. -/
  | unreadUnauthorized {failure : Json.Failure}
      (h : (Envelope.codec ignoredCodec).readBytes body = .error failure) (hstatus : status = 401) :
      Refuses status body .invalidSession
  /-- The body is no envelope, and is repeated as well as it can be. -/
  | unread {failure : Json.Failure}
      (h : (Envelope.codec ignoredCodec).readBytes body = .error failure) (hstatus : status ≠ 401) :
      Refuses status body (.api status "" (Utf8.decodeLossy body))

lemma Error.ofKey_eq (status : Nat) (key text : String) :
    Error.ofKey status key text = (keyedErrors.lookup key).getD (.api status key text) := by
  unfold Error.ofKey
  split
  · rfl
  · rfl
  · rfl
  · rfl
  · rfl
  · rfl
  · rfl
  · rfl
  · rfl
  · rfl
  · have hnone : keyedErrors.lookup key = none := by
      rw [List.lookup_eq_none_iff]
      simp only [keyedErrors, List.forall_mem_cons, bne_iff_ne]
      exact ⟨‹_›, ‹_›, ‹_›, ‹_›, ‹_›, ‹_›, ‹_›, ‹_›, ‹_›, ‹_›, List.forall_mem_nil _⟩
    rw [hnone, Option.getD_none]

/-- A refusal is read as the error that it is. -/
lemma refuses_readRefusal (status : Nat) (body : List UInt8) :
    Refuses status body (readRefusal status body) := by
  unfold readRefusal
  cases hbody : (Envelope.codec ignoredCodec).readBytes body with
  | error failure =>
    by_cases hstatus : status = 401
    · subst hstatus
      exact .unreadUnauthorized hbody rfl
    · have hunread : Error.ofRefusal status "" (Utf8.decodeLossy body) =
          .api status "" (Utf8.decodeLossy body) := by
        simp [Error.ofRefusal, hstatus, Error.ofKey]
      simp only [hunread]
      exact .unread hbody hstatus
  | ok envelope =>
    dsimp only
    by_cases hexpired : envelope.error = "" ∧ status = 401
    · have hsession : Error.ofRefusal status envelope.error envelope.message = .invalidSession := by
        simp [Error.ofRefusal, hexpired, Error.ofKey]
      rw [hsession]
      exact .unauthorized hbody hexpired.1 hexpired.2
    · have hkey : Error.ofRefusal status envelope.error envelope.message =
          Error.ofKey status envelope.error envelope.message := by
        rw [Error.ofRefusal, if_neg (by simpa using hexpired)]
      rw [hkey, Error.ofKey_eq]
      cases hlookup : keyedErrors.lookup envelope.error with
      | none => exact .other hbody hlookup hexpired
      | some error => exact .keyed hbody hlookup

/-- A refusal is no other error. -/
lemma Refuses.readRefusal_eq {status : Nat} {body : List UInt8} {error : Error}
    (h : Refuses status body error) : readRefusal status body = error := by
  cases h with
  | @keyed envelope _ h hkey =>
    have hempty : envelope.error ≠ "" := by
      intro hempty
      rw [hempty] at hkey
      cases hkey
    simp [readRefusal, h, Error.ofRefusal, hempty, Error.ofKey_eq, hkey]
  | unauthorized h hkey hstatus =>
    simp [readRefusal, h, Error.ofRefusal, hkey, hstatus, Error.ofKey]
  | other h hkey hstatus =>
    simp only [readRefusal, h, Error.ofRefusal]
    rw [if_neg (by simpa using hstatus), Error.ofKey_eq, hkey, Option.getD_none]
  | unreadUnauthorized h hstatus =>
    simp [readRefusal, h, Error.ofRefusal, hstatus, Error.ofKey]
  | unread h hstatus =>
    simp [readRefusal, h, Error.ofRefusal, hstatus, Error.ofKey]

lemma Refuses.ne_invalidResponse {status : Nat} {body : List UInt8} {error : Error}
    (h : Refuses status body error) (text : String) : error ≠ .invalidResponse text := by
  cases h with
  | @keyed envelope _ h hkey =>
    rintro rfl
    obtain ⟨before, after, hsplit, -⟩ := List.lookup_eq_some_iff.mp hkey
    have hmem : (envelope.error, Error.invalidResponse text) ∈ keyedErrors := by
      rw [hsplit]
      exact List.mem_append_right _ List.mem_cons_self
    simp [keyedErrors] at hmem
  | unauthorized | other | unreadUnauthorized | unread => simp

/-! ### Bodies that differ in their data -/

/-- The members of an object: a name or what is wrong with it, and a value. -/
abbrev Members := List (Except Fault String × Tree)

/-- A body is the text of an object with these members, and blanks. -/
def IsObject (body : List UInt8) (ms : Members) : Prop :=
  ∃ s blank, Spells (.value (.object ms .closed)) s ∧ (∀ c ∈ blank, isSpace c) ∧
    Utf8.symbols body = s ++ blank

lemma IsObject.of_text (ms : List (String × Json.Value)) :
    IsObject (Utf8.bytes (Json.Value.object ms).text) (Json.treeMembers ms) := by
  refine ⟨_, [], (Json.Value.object ms).spells_write, by simp, ?_⟩
  rw [Utf8.symbols_bytes, Json.Value.text, String.toList_ofList, List.append_nil]

/-- The member with the data has another value, or is not there. -/
inductive OtherData : Members → Members → Prop where
  | replaced (before after : Members) (t t' : Tree) :
      OtherData (before ++ (.ok "data", t) :: after) (before ++ (.ok "data", t') :: after)
  | removed (before after : Members) (t : Tree) :
      OtherData (before ++ (.ok "data", t) :: after) (before ++ after)

lemma IsObject.readBytes {α : Type} {body : List UInt8} {ms : Members} (h : IsObject body ms)
    (c : Codec α) : c.readBytes body = c.decode (.object ms .closed) := by
  obtain ⟨s, blank, hs, hblank, hbody⟩ := h
  have hspace : dropSpace blank = [] := by
    simpa [dropSpace] using Json.dropSpace_append hblank []
  rw [Codec.readBytes, hbody, Codec.read, Json.read_of_spells hs hblank]
  dsimp only
  cases c.decode (.object ms .closed) with
  | error failure => rfl
  | ok a => simp [hspace]

/-- Every value in an object can be passed over. -/
lemma IsObject.skip_of_mem {body : List UInt8} {ms : Members} (h : IsObject body ms)
    {name : Except Fault String} {t : Tree} (ht : (name, t) ∈ ms) : t.skip = .ok () := by
  obtain ⟨s, -, hs, -, -⟩ := h
  exact Json.skip_object hs.isPassedOver _ ht

/-- The same members can be taken in on top of everything that is related. -/
def Keeps {τ σ : Type} (s : Shape τ σ) (R : σ → σ → Prop) : Prop :=
  ∀ name t x x' y, s.accept name t x = .ok y → R x x' → ∃ y', s.accept name t x' = .ok y' ∧ R y y'

namespace Keeps

variable {β τ σ : Type}

/-- A field in front is the same on both sides. -/
lemma cons (field : Json.RecordField β) {rest : Shape τ σ} {R : σ → σ → Prop} (h : Keeps rest R) :
    Keeps (.cons field rest) fun x x' => x.1 = x'.1 ∧ R x.2 x'.2 := by
  rintro name t ⟨slot, x⟩ ⟨-, x'⟩ y hy ⟨rfl, hx⟩
  rw [Shape.accept] at hy ⊢
  by_cases hname : name = field.name
  · simp only [if_pos hname] at hy ⊢
    split at hy
    · cases hy
    · rename_i hslot
      rw [if_neg hslot]
      split at hy
      · cases hy
        exact ⟨_, rfl, rfl, hx⟩
      · cases hy
  · simp only [if_neg hname] at hy ⊢
    cases haccept : rest.accept name t x with
    | error failure =>
      rw [haccept] at hy
      cases hy
    | ok z =>
      rw [haccept] at hy
      cases hy
      obtain ⟨z', hz', hz⟩ := h name t x x' z haccept hx
      exact ⟨(slot, z'), by rw [hz']; rfl, rfl, hz⟩

/-- What has been taken in for a field may be missing on the other side. -/
lemma last (field : Json.RecordField β) :
    Keeps (.cons field .nil) fun x x' => x.1 = none → x'.1 = none := by
  rintro name t ⟨slot, ⟨⟩⟩ ⟨slot', ⟨⟩⟩ y hy hx
  rw [Shape.accept] at hy ⊢
  by_cases hname : name = field.name
  · simp only [if_pos hname] at hy ⊢
    split at hy
    · cases hy
    · rename_i hslot
      have hslot' : slot' = none := hx (by simpa using hslot)
      rw [hslot', if_neg (by simp)]
      split at hy
      · cases hy
        exact ⟨_, rfl, by simp⟩
      · cases hy
  · simp only [if_neg hname, Shape.accept] at hy ⊢
    cases hskip : t.skip with
    | error fault =>
      rw [hskip] at hy
      cases hy
    | ok _ =>
      rw [hskip] at hy
      cases hy
      exact ⟨_, rfl, hx⟩

/-- The members of an object are taken in one after the other. -/
lemma acceptAll {s : Shape τ σ} {R : σ → σ → Prop} (h : Keeps s R) {ms : Members} {x x' y : σ}
    (hy : s.acceptAll ms x = .ok y) (hx : R x x') : ∃ y', s.acceptAll ms x' = .ok y' ∧ R y y' := by
  induction ms generalizing x x' with
  | nil =>
    cases hy
    exact ⟨x', rfl, hx⟩
  | cons m ms ih =>
    obtain ⟨name, t⟩ := m
    cases name with
    | error fault => cases hy
    | ok name =>
      simp only [Shape.acceptAll] at hy ⊢
      split at hy
      · cases hy
      · rename_i z hz
        obtain ⟨z', hz', hR⟩ := h name t x x' z hz hx
        rw [hz']
        exact ih hy hR

end Keeps

/-- The fields of an envelope whose data is passed over. -/
abbrev plainShape := Envelope.shape ignoredCodec

/-- What has been taken in for an envelope whose data is passed over. -/
abbrev Slots := Option Bool × Option String × Option String × Option (Option Unit) × Unit

/-- The same has been taken in, but for the data, of which the second has no more than the first. -/
def Slots.Agree (x x' : Slots) : Prop :=
  x.1 = x'.1 ∧ x.2.1 = x'.2.1 ∧ x.2.2.1 = x'.2.2.1 ∧ (x.2.2.2.1 = none → x'.2.2.2.1 = none)

lemma keeps_agree : Keeps plainShape Slots.Agree :=
  .cons _ (.cons _ (.cons _ (.last _)))

/-- Data is only taken in where there is none yet. -/
lemma of_accept_data {t : Tree} {x y : Slots} (h : plainShape.accept "data" t x = .ok y) :
    x.2.2.2.1 = none ∧ ∃ v, y = (x.1, x.2.1, x.2.2.1, some v, ()) := by
  obtain ⟨ok, message, error, data, ⟨⟩⟩ := x
  simp only [plainShape, Envelope.shape, Shape.accept] at h
  cases data with
  | some data =>
    exfalso
    simp [Except.map] at h
  | none =>
    refine ⟨rfl, ?_⟩
    cases hread : (Codec.option ignoredCodec).decode t with
    | error failure =>
      exfalso
      simp [hread, Except.map] at h
    | ok v =>
      refine ⟨v, ?_⟩
      simp [hread, Except.map] at h
      exact h.symm

/-- Any data is taken in where there is none yet. -/
lemma exists_accept_data {t : Tree} (ht : t.skip = .ok ()) {x : Slots} (hx : x.2.2.2.1 = none) :
    ∃ v, plainShape.accept "data" t x = .ok (x.1, x.2.1, x.2.2.1, some v, ()) := by
  obtain ⟨ok, message, error, data, ⟨⟩⟩ := x
  dsimp only at hx
  subst hx
  have hread : ∃ v, (Codec.option ignoredCodec).decode t = .ok v := by
    simp only [Codec.option, ignoredCodec]
    split
    · exact ⟨none, rfl⟩
    · exact ⟨some (), by rw [ht]; rfl⟩
  obtain ⟨v, hread⟩ := hread
  refine ⟨v, ?_⟩
  simp [plainShape, Envelope.shape, Shape.accept, hread, Except.map]

/-- An object with other data is taken in like the one it differs from. -/
lemma OtherData.acceptAll {ms ms' : Members} (h : OtherData ms ms')
    (hskip : ∀ name t, (name, t) ∈ ms' → t.skip = .ok ()) {x y : Slots}
    (hy : plainShape.acceptAll ms x = .ok y) :
    ∃ y', plainShape.acceptAll ms' x = .ok y' ∧ y.Agree y' := by
  have hsplit {before after : Members} {t : Tree}
      (hy : plainShape.acceptAll (before ++ (.ok "data", t) :: after) x = .ok y) :
      ∃ z v, plainShape.acceptAll before x = .ok z ∧ z.2.2.2.1 = none ∧
        plainShape.acceptAll after (z.1, z.2.1, z.2.2.1, some v, ()) = .ok y := by
    rw [Shape.acceptAll_append] at hy
    cases hbefore : plainShape.acceptAll before x with
    | error failure =>
      rw [hbefore] at hy
      cases hy
    | ok z =>
      rw [hbefore] at hy
      simp only [Except.bind, Shape.acceptAll] at hy
      split at hy
      · cases hy
      · rename_i haccept
        obtain ⟨hz, v, rfl⟩ := of_accept_data haccept
        exact ⟨z, v, rfl, hz, hy⟩
  cases h with
  | replaced before after t t' =>
    obtain ⟨z, v, hbefore, hz, hafter⟩ := hsplit hy
    obtain ⟨v', hv'⟩ := exists_accept_data (hskip (.ok "data") t' (by simp)) hz
    have hagree : Slots.Agree (z.1, z.2.1, z.2.2.1, some v, ()) (z.1, z.2.1, z.2.2.1, some v', ()) :=
      ⟨rfl, rfl, rfl, by simp⟩
    obtain ⟨y', hy', hR⟩ := keeps_agree.acceptAll hafter hagree
    refine ⟨y', ?_, hR⟩
    rw [Shape.acceptAll_append, hbefore]
    simp only [Except.bind, Shape.acceptAll, hv']
    exact hy'
  | removed before after t =>
    obtain ⟨z, v, hbefore, hz, hafter⟩ := hsplit hy
    have hagree : Slots.Agree (z.1, z.2.1, z.2.2.1, some v, ()) z :=
      ⟨rfl, rfl, rfl, by simp⟩
    obtain ⟨y', hy', hR⟩ := keeps_agree.acceptAll hafter hagree
    refine ⟨y', ?_, hR⟩
    rw [Shape.acceptAll_append, hbefore]
    exact hy'

/-- An envelope is complete whatever has been taken in. -/
lemma exists_finish (x : Slots) :
    ∃ data, plainShape.finish x = .ok (x.1.getD false, x.2.1.getD "", x.2.2.1.getD "", data, ()) := by
  obtain ⟨ok, message, error, data, ⟨⟩⟩ := x
  refine ⟨data.getD none, ?_⟩
  cases ok <;> cases message <;> cases error <;> cases data <;> rfl

/-- The envelope of an object, in terms of what has been taken in. -/
lemma decode_object {ms : Members} :
    (Envelope.codec ignoredCodec).decode (.object ms .closed) =
      (plainShape.acceptAll ms plainShape.empty).bind fun x =>
        (plainShape.finish x).map fun (ok, message, error, data, ()) => ⟨ok, message, error, data⟩ := by
  simp only [Envelope.codec, Codec.imap, Codec.record, Json.Ending.objectFault]
  cases plainShape.acceptAll ms plainShape.empty with
  | error failure => rfl
  | ok x => rfl

/-- The error of an envelope stays the same with other data. -/
lemma readRefusal_of_otherData {body body' : List UInt8} {ms ms' : Members} (h : IsObject body ms)
    (h' : IsObject body' ms') (hdata : OtherData ms ms') {e : Envelope Unit}
    (he : (Envelope.codec ignoredCodec).readBytes body = .ok e) (status : Nat) :
    readRefusal status body' = readRefusal status body := by
  have hread := he
  rw [h.readBytes, decode_object] at hread
  cases hy : plainShape.acceptAll ms plainShape.empty with
  | error failure =>
    rw [hy] at hread
    cases hread
  | ok y =>
    obtain ⟨y', hy', -, hmessage, herror, -⟩ := hdata.acceptAll (fun _ _ ht => h'.skip_of_mem ht) hy
    obtain ⟨data, hfinish⟩ := exists_finish y
    obtain ⟨data', hfinish'⟩ := exists_finish y'
    rw [hy] at hread
    simp only [Except.bind, hfinish, Except.map] at hread
    cases hread
    have he' : (Envelope.codec ignoredCodec).readBytes body' =
        .ok ⟨y'.1.getD false, y'.2.1.getD "", y'.2.2.1.getD "", data'⟩ := by
      rw [h'.readBytes, decode_object, hy']
      simp only [Except.bind, hfinish', Except.map]
    simp only [readRefusal, he, he', hmessage, herror]

/-! ### What a reply is read as -/

lemma readEnvelope_of_not_isSuccess {α : Type} {status : Nat} (h : isSuccess status = false)
    (data : Codec α) (label : ReplyLabel) (body : List UInt8) :
    readEnvelope data label status body = .error (readRefusal status body) := by
  simp [readEnvelope, h]

lemma readEnvelope_of_isSuccess {α : Type} {status : Nat} (h : isSuccess status) (data : Codec α)
    (label : ReplyLabel) (body : List UInt8) :
    (∃ e, (Envelope.codec data).readBytes body = .ok e ∧
        readEnvelope data label status body = .ok e) ∨
      ∃ text, readEnvelope data label status body = .error (.invalidResponse text) := by
  rw [readEnvelope, if_pos h]
  cases (Envelope.codec data).readBytes body with
  | ok e => exact .inl ⟨e, rfl, rfl⟩
  | error failure => exact .inr ⟨_, rfl⟩

lemma Call.read_of_isSuccess {status : Nat} (h : isSuccess status) (c : Call) (label : ReplyLabel)
    (body : List UInt8) :
    (∃ data, c.read label status body = .ok data) ∨
      ∃ text, c.read label status body = .error (.invalidResponse text) := by
  rw [Call.read]
  rcases readEnvelope_of_isSuccess h c.codec label body with ⟨e, -, he⟩ | ⟨text, he⟩
  · rw [he]
    dsimp only
    cases e.data <|> c.absentData? with
    | none => exact .inr ⟨_, rfl⟩
    | some data => exact .inl ⟨data, rfl⟩
  · rw [he]
    exact .inr ⟨text, rfl⟩

/-- A reply without a status of success is the error that it refuses with, which is never that a reply makes
no sense. No data has a part in it: neither the data that is expected nor, in an envelope that is an object,
the data that is there, which may as well be missing. A reply with a status of success is an envelope, or it
makes no sense. -/
theorem refusal_independent_of_data (status : Nat) (body : List UInt8) :
    (isSuccess status = false → ∃ error, (∀ e, Refuses status body e ↔ e = error) ∧
      (∀ text, error ≠ .invalidResponse text) ∧
      (∀ (α : Type) (data : Codec α) (label : ReplyLabel),
        readEnvelope data label status body = .error error) ∧
      ∀ (ms ms' : Members) (e : Envelope Unit) (body' : List UInt8), IsObject body ms →
        (Envelope.codec ignoredCodec).readBytes body = .ok e → OtherData ms ms' → IsObject body' ms' →
        ∀ (α : Type) (data : Codec α) (label : ReplyLabel),
          readEnvelope data label status body' = .error error) ∧
    (isSuccess status →
      (∀ (α : Type) (data : Codec α) (label : ReplyLabel),
        (∃ e, (Envelope.codec data).readBytes body = .ok e ∧
          readEnvelope data label status body = .ok e) ∨
        ∃ text, readEnvelope data label status body = .error (.invalidResponse text)) ∧
      ∀ (c : Call) (label : ReplyLabel), (∃ data, c.read label status body = .ok data) ∨
        ∃ text, c.read label status body = .error (.invalidResponse text)) := by
  constructor
  · intro hstatus
    have hrefuses := refuses_readRefusal status body
    refine ⟨readRefusal status body, ?_, hrefuses.ne_invalidResponse, ?_, ?_⟩
    · intro e
      constructor
      · intro he
        exact he.readRefusal_eq.symm
      · rintro rfl
        exact hrefuses
    · intro α data label
      exact readEnvelope_of_not_isSuccess hstatus data label body
    · intro ms ms' e body' hbody he hdata hbody' α data label
      rw [readEnvelope_of_not_isSuccess hstatus, readRefusal_of_otherData hbody hbody' hdata he]
  · intro hstatus
    constructor
    · intro α data label
      exact readEnvelope_of_isSuccess hstatus data label body
    · intro c label
      exact c.read_of_isSuccess hstatus label body

/-- A refusal with a key, and further members. -/
def forbidding (ms : List (String × Json.Value)) : List (String × Json.Value) :=
  ("ok", .bool false) :: ("message", .string "no access") ::
    ("error", .string "invalid_permissions") :: ms

/-- A refusal with a key is the same error with an object for its data, with a truth value and with none. -/
theorem refusal_independent_of_data_forbidding :
    let text (ms : List (String × Json.Value)) := Utf8.bytes (Json.Value.object (forbidding ms)).text
    (∃ error, (∀ e, Refuses 403 (text [("data", .object [])]) e ↔ e = error) ∧
      readEnvelope Grant.codec ⟨"POST /login", fun _ => ""⟩ 403 (text [("data", .object [])]) = .error error ∧
      readEnvelope Vaults.codec ⟨"GET /vaults", fun _ => ""⟩ 403 (text [("data", .bool true)]) = .error error ∧
      readEnvelope Vaults.codec ⟨"GET /vaults", fun _ => ""⟩ 403 (text []) = .error error) ∧
    ((∃ data, Call.nonce.read ⟨"GET /nonce", fun _ => ""⟩ 200 (text []) = .ok data) ∨
      ∃ reason, Call.nonce.read ⟨"GET /nonce", fun _ => ""⟩ 200 (text []) = .error (.invalidResponse reason)) := by
  intro text
  have hread : (Envelope.codec ignoredCodec).readBytes (text [("data", .object [])]) =
      .ok ⟨false, "no access", "invalid_permissions", some ()⟩ := by
    rw [Codec.readBytes_text]
    rfl
  have hbody := IsObject.of_text (forbidding [("data", .object [])])
  obtain ⟨error, hrefuses, -, hall, hother⟩ :=
    (refusal_independent_of_data 403 (text [("data", .object [])])).1 rfl
  have hreplaced := OtherData.replaced (Json.treeMembers (forbidding [])) []
    (Json.Value.object []).tree (Json.Value.bool true).tree
  have hremoved := OtherData.removed (Json.treeMembers (forbidding [])) [] (Json.Value.object []).tree
  constructor
  · refine ⟨error, hrefuses, hall _ _ _, ?_, ?_⟩
    · exact hother _ _ _ _ hbody hread hreplaced (IsObject.of_text _) _ _ _
    · exact hother _ _ _ _ hbody hread hremoved (IsObject.of_text _) _ _ _
  · exact ((refusal_independent_of_data 200 (text [])).2 rfl).2 .nonce ⟨"GET /nonce", fun _ => ""⟩

end OperatorDaemon.Service
