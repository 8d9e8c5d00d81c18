import OperatorDaemon.Proofs.Json.Rearrangement
import OperatorDaemon.Proofs.Service.Envelope
import OperatorDaemon.Proofs.Service.Wire

/-!
# Members that the service moves or adds

Everything that goes over the wire is read the same with the members of its objects rearranged, at every level. So
whatever a reply says, it still says when the service writes the members in another order and adds others.
-/

namespace OperatorDaemon.Service

open Json (Codec Fault IsStringBody Layout Shape Spells Tree)

/-! ### Layouts -/

/-- A record whose fields have no records in them. -/
def flat (names : List String) : Layout := .record names fun _ => .plain

/-- Where there are records in the parts of data. -/
def vaultLayout : Layout := flat ["name", "address"]

@[inherit_doc vaultLayout]
def vaultValidatorLayout : Layout := flat ["pubkey", "status", "exitMessageUploaded"]

@[inherit_doc vaultLayout]
def depositLayout : Layout :=
  flat ["pubkey", "withdrawal_credentials", "amount", "signature", "deposit_message_root", "deposit_data_root",
    "fork_version", "network_name"]

@[inherit_doc vaultLayout]
def registrationLayout : Layout :=
  .record ["depositData", "exitMessage"] fun name => if name = "depositData" then depositLayout else .plain

@[inherit_doc vaultLayout]
def minipoolValidatorLayout : Layout := flat ["pubkey", "requiresExitMessage"]

@[inherit_doc vaultLayout]
def exitMessageLayout : Layout := flat ["pubkey", "exitMessage"]

/-- Where there are records in data. -/
def Datum.layout : Datum → Layout
  | none => flat []
  | challenge => flat ["nonce", "token"]
  | login => flat ["nonce", "address", "signature"]
  | grant => flat ["token"]
  | nodeAddress => flat ["email", "nodeAddress", "signature"]
  | vault => vaultLayout
  | vaults => .record ["vaults"] fun _ => .list vaultLayout
  | vaultValidator => vaultValidatorLayout
  | vaultValidators => .record ["validators"] fun _ => .list vaultValidatorLayout
  | counts => flat ["active", "max", "available"]
  | deposit => depositLayout
  | validatorRegistration => registrationLayout
  | validators => .record ["validators", "beaconDepositRoot"] fun name =>
      if name = "validators" then .list registrationLayout else .plain
  | signature => flat ["signature"]
  | whitelisting => flat ["whitelisted", "address"]
  | depositSignature => flat ["minipoolAddress", "salt"]
  | minipoolValidator => minipoolValidatorLayout
  | minipoolValidators => .record ["validators"] fun _ => .list minipoolValidatorLayout
  | exitMessage => exitMessageLayout
  | exitMessages => .record ["exitMessages"] fun _ => .list exitMessageLayout
  | status => .plain

/-- Where there are records in an envelope. -/
def envelopeLayout (data : Layout) : Layout :=
  .record ["ok", "message", "error", "data"] fun name => if name = "data" then data else .plain

/-- Where there are records in what goes over the wire. -/
def WireType.layout : WireType → Layout
  | bare d => d.layout
  | envelope d => envelopeLayout d.layout

/-- Where there are records in the data of a call. -/
def Call.layout : Call → Layout
  | nonce => Datum.challenge.layout
  | login _ => Datum.grant.layout
  | nodeAddress _ | uploadExits .. => Datum.none.layout
  | vaults _ => Datum.vaults.layout
  | vaultValidators .. => Datum.vaultValidators.layout
  | validatorCounts .. => Datum.counts.layout
  | postValidators .. | postWhitelisting _ | depositSignature .. => Datum.signature.layout
  | whitelisting _ => Datum.whitelisting.layout
  | minipoolValidators _ => Datum.minipoolValidators.layout

/-! ### All that is read -/

lemma follows_flat {α τ σ : Type} {title : String} {s : Shape τ σ} {of : τ → α} {back : α → τ} :
    ((Codec.record title s).imap of back).Follows (flat s.names) :=
  .imap (.record title s.follows_plain) of back

lemma DepositData.follows : DepositData.codec.Follows depositLayout := follows_flat

lemma Vault.follows : Vault.codec.Follows vaultLayout := follows_flat

lemma VaultValidator.follows : VaultValidator.codec.Follows vaultValidatorLayout := follows_flat

lemma MinipoolValidator.follows : MinipoolValidator.codec.Follows minipoolValidatorLayout := follows_flat

lemma ExitMessage.follows : ExitMessage.codec.Follows exitMessageLayout := follows_flat

lemma ValidatorRegistration.follows : ValidatorRegistration.codec.Follows registrationLayout := by
  refine .imap (.record _ ?_) _ _
  exact ⟨DepositData.follows, Codec.follows_plain _, trivial⟩

lemma Datum.follows (d : Datum) : d.codec.Follows d.layout := by
  cases d with
  | none | challenge | login | grant | nodeAddress | counts | signature | whitelisting | depositSignature =>
    exact follows_flat
  | vault => exact Vault.follows
  | vaults =>
    refine .imap (.record _ ?_) _ _
    exact ⟨Vault.follows.list, trivial⟩
  | vaultValidator => exact VaultValidator.follows
  | vaultValidators =>
    refine .imap (.record _ ?_) _ _
    exact ⟨VaultValidator.follows.list, trivial⟩
  | deposit => exact DepositData.follows
  | validatorRegistration => exact ValidatorRegistration.follows
  | validators =>
    refine .imap (.record _ ?_) _ _
    exact ⟨ValidatorRegistration.follows.list, Codec.follows_plain _, trivial⟩
  | minipoolValidator => exact MinipoolValidator.follows
  | minipoolValidators =>
    refine .imap (.record _ ?_) _ _
    exact ⟨MinipoolValidator.follows.list, trivial⟩
  | exitMessage => exact ExitMessage.follows
  | exitMessages =>
    refine .imap (.record _ ?_) _ _
    exact ⟨ExitMessage.follows.list, trivial⟩
  | status => exact Codec.follows_plain _

lemma Envelope.follows {α : Type} {data : Codec α} {l : Layout} (h : data.Follows l) :
    (Envelope.codec data).Follows (envelopeLayout l) := by
  refine .imap (.record _ ?_) _ _
  exact ⟨Codec.follows_plain _, Codec.follows_plain _, Codec.follows_plain _, h.option, trivial⟩

lemma WireType.follows (t : WireType) : t.codec.Follows t.layout := by
  cases t with
  | bare d => exact d.follows
  | envelope d => exact Envelope.follows d.follows

lemma Call.follows (c : Call) : c.codec.Follows c.layout := by
  cases c with
  | nonce => exact Datum.challenge.follows
  | login => exact Datum.grant.follows
  | nodeAddress | uploadExits => exact Datum.none.follows
  | vaults => exact Datum.vaults.follows
  | vaultValidators => exact Datum.vaultValidators.follows
  | validatorCounts => exact Datum.counts.follows
  | postValidators | postWhitelisting | depositSignature => exact Datum.signature.follows
  | whitelisting => exact Datum.whitelisting.follows
  | minipoolValidators => exact Datum.minipoolValidators.follows

/-- Data that is passed over may be anything. -/
lemma follows_ignoredCodec (l : Layout) : ignoredCodec.Follows l := by
  intro t t' hrel hskip a ha
  simp only [ignoredCodec, hskip]

/-! ### Bodies -/

/-- Both bodies are objects, and one rearranges the members of the other. -/
def RearrangesBody (l : Layout) (body body' : List UInt8) : Prop :=
  ∃ ms ms', IsObject body ms ∧ IsObject body' ms' ∧ l.Rearranges (.object ms .closed) (.object ms' .closed)

lemma RearrangesBody.readBytes {α : Type} {c : Codec α} {l : Layout} {body body' : List UInt8}
    (h : RearrangesBody l body body') (hc : c.Follows l) {a : α} (ha : c.readBytes body = .ok a) :
    c.readBytes body' = .ok a := by
  obtain ⟨ms, ms', hbody, hbody', hrel⟩ := h
  rw [hbody.readBytes] at ha
  rw [hbody'.readBytes]
  obtain ⟨s, -, hs, -, -⟩ := hbody'
  exact hc _ _ hrel hs.isPassedOver a ha

/-- A refusal that is an envelope stays the same refusal. -/
lemma RearrangesBody.readRefusal_eq {l : Layout} {body body' : List UInt8}
    (h : RearrangesBody (envelopeLayout l) body body') {e : Envelope Unit}
    (he : (Envelope.codec ignoredCodec).readBytes body = .ok e) (status : Nat) :
    readRefusal status body' = readRefusal status body := by
  have he' := h.readBytes (Envelope.follows (follows_ignoredCodec l)) he
  simp only [readRefusal, he, he']

/-- Whatever is read from an object is read from it with its members rearranged: in another order and among others
that are no fields, at every level. So a reply says the same, be it a success or a refusal, as long as it is an
envelope at all. -/
theorem reads_rearranged :
    (∀ (t : WireType) (body body' : List UInt8), RearrangesBody t.layout body body' →
      ∀ a, t.codec.readBytes body = .ok a → t.codec.readBytes body' = .ok a) ∧
    (∀ (c : Call) (label : ReplyLabel) (status : Nat) (body body' : List UInt8), isSuccess status →
      RearrangesBody (envelopeLayout c.layout) body body' →
      ∀ e, (Envelope.codec c.codec).readBytes body = .ok e →
        c.read label status body' = c.read label status body) ∧
    ∀ (c : Call) (label : ReplyLabel) (status : Nat) (body body' : List UInt8), isSuccess status = false →
      ∀ l, RearrangesBody (envelopeLayout l) body body' →
      ∀ e, (Envelope.codec ignoredCodec).readBytes body = .ok e →
        c.read label status body' = c.read label status body := by
  refine ⟨?_, ?_, ?_⟩
  · intro t body body' h a ha
    exact h.readBytes t.follows ha
  · intro c label status body body' hstatus h e he
    have he' := h.readBytes (Envelope.follows c.follows) he
    simp only [Call.read, readEnvelope, if_pos hstatus, he, he', Except.mapError]
  · intro c label status body body' hstatus l h e he
    simp only [Call.read, readEnvelope_of_not_isSuccess hstatus, h.readRefusal_eq he status]

/-- A validator in a reply, with its members in an order of their own and another in front. -/
def movedValidator : Json.Value :=
  .object [("index", .object [("at", .null), ("at", .bool true)]), ("status", .string "s"), ("pubkey", .string "p"),
    ("exitMessageUploaded", .bool false)]

/-- The data of a reply about this validator, with another member in front. -/
def movedData : Json.Value := .object [("total", .null), ("validators", .array [movedValidator])]

/-- A reply about one validator is read the same with members moved and added in the validator, in the data and in
the envelope. -/
theorem reads_rearranged_validator :
    let body := Utf8.bytes (Json.Value.object [("ok", .bool true), ("data", .object [("validators", .array [
      .object [("pubkey", .string "p"), ("status", .string "s"), ("exitMessageUploaded", .bool false)]])])]).text
    let body' := Utf8.bytes (Json.Value.object
      [("data", movedData), ("version", .string "2"), ("ok", .bool true), ("version", .null)]).text
    RearrangesBody (WireType.envelope .vaultValidators).layout body body' ∧
      (WireType.envelope .vaultValidators).codec.readBytes body' = .ok ⟨true, "", "", some ⟨[⟨"p", "s", false⟩]⟩⟩ := by
  intro body body'
  have hbody : RearrangesBody (WireType.envelope .vaultValidators).layout body body' := by
    refine ⟨_, _, .of_text _, .of_text _, .inr <| .inl ⟨_, _, rfl, rfl, ?_⟩⟩
    refine ⟨[(.ok "ok", .bool true), (.ok "data", movedData.tree)],
      [(.ok "version", .string (.ok "2")), (.ok "version", .null)],
      .cons ⟨rfl, .inl rfl⟩ <| .cons ⟨rfl, .inr ⟨"data", by simp, rfl, ?_⟩⟩ .nil, by simp,
      (List.Perm.swap _ _ _).trans (.cons _ (.swap _ _ _))⟩
    refine .inr <| .inl ⟨_, _, rfl, rfl, [(.ok "validators", (Json.Value.array [movedValidator]).tree)],
      [(.ok "total", .null)],
      .cons ⟨rfl, .inr ⟨"validators", by simp, rfl, ?_⟩⟩ .nil, by simp, .swap _ _ _⟩
    refine .inr ⟨_, _, rfl, rfl, .cons ?_ .nil⟩
    exact .inr <| .inl ⟨_, _, rfl, rfl, _, [(.ok "index", .object [(.ok "at", .null), (.ok "at", .bool true)] .closed)],
      .cons ⟨rfl, .inl rfl⟩ <| .cons ⟨rfl, .inl rfl⟩ <| .cons ⟨rfl, .inl rfl⟩ .nil, by simp,
      List.perm_append_comm.trans (.cons _ (.swap _ _ _))⟩
  refine ⟨hbody, reads_rearranged.1 (.envelope .vaultValidators) body body' hbody _ ?_⟩
  exact (Codec.readBytes_text _ _).trans rfl

/-- A name with half a surrogate pair in it is no text, and an object with such a member is not read, even though
the name is that of no field. -/
theorem not_reads_unpaired_name :
    let body := Utf8.bytes "\x7b\"token\":\"t\"\x7d"
    let body' := Utf8.bytes "\x7b\"token\":\"t\",\"\\ud800\":null\x7d"
    let added : Except Fault String × Tree := (.error .unexpectedHexEnd, .null)
    IsObject body [(.ok "token", .string (.ok "t"))] ∧
      IsObject body' ([(.ok "token", .string (.ok "t"))] ++ [added]) ∧ (∀ name ∈ ["token"], added.1 ≠ .ok name) ∧
      Grant.codec.readBytes body = .ok ⟨"t"⟩ ∧ Grant.codec.readBytes body' ≠ .ok ⟨"t"⟩ := by
  have hadded : IsObject (Utf8.bytes "\x7b\"token\":\"t\",\"\\ud800\":null\x7d")
      [(.ok "token", .string (.ok "t")), (.error .unexpectedHexEnd, .null)] := by
    have hname : IsStringBody ("\\ud800\"".toList.map some) := .code (n := 0xd800) rfl .close
    have htext : Json.bodyText ("\\ud800\"".toList.map some) = .error .unexpectedHexEnd := by decide +kernel
    have hmember := Spells.member hname (List.forall_mem_nil _) .null .endMembers
    rw [htext] at hmember
    have htoken := Spells.writtenMember "token" (Json.Value.string "t").spells_write (.nextMember hmember)
    exact ⟨_, [], .object htoken, List.forall_mem_nil _, by rw [Utf8.symbols_bytes]; rfl⟩
  have h : IsObject (Utf8.bytes "\x7b\"token\":\"t\"\x7d") [(.ok "token", .string (.ok "t"))] :=
    .of_text [("token", .string "t")]
  refine ⟨h, hadded, by simp, ?_, ?_⟩
  · rw [h.readBytes]
    rfl
  · rw [hadded.readBytes]
    intro hread
    cases hread

end OperatorDaemon.Service
