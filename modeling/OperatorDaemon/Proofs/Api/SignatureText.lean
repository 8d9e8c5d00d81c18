import OperatorDaemon.Proofs.Api.Gate
import OperatorDaemon.Proofs.Module.Body
import OperatorDaemon.Proofs.Module.Success
import OperatorDaemon.Proofs.Text.Digits

/-!
# Signatures that the service gives

Two operations get a signature of the service as a text of hexadecimal digits. They report the same digits, made
small, or they fail because the text is none of digits. Nothing is asked of the service once it has given the text.
-/

namespace OperatorDaemon

open OperatorDaemon.Module (Answer Operation)
open Service (Call Error Exchange)

/-! ### Texts of bytes -/

namespace Hex

/-- A text is an even number of digits behind at most one mark. -/
structure IsPaired (cs digits : List Char) : Prop where
  marked : IsMarked cs digits
  isSome_hexValue? : ∀ c ∈ digits, (hexValue? c).isSome
  even : digits.length % 2 = 0

/-- The bytes of such a text are written as its digits, made small. -/
lemma IsPaired.exists_decode {text : String} {digits : List Char} (h : IsPaired text.toList digits) :
    ∃ bytes, decode text = .ok bytes ∧ encodeChars bytes = digits.map asciiLower := by
  have hpairs := encodeChars_pairs h.isSome_hexValue? h.even
  refine ⟨_, ?_, hpairs⟩
  rw [← String.ofList_toList (s := text)]
  exact decode_ofList_eq_ok.mpr ⟨digits, h.marked, hpairs.symm⟩

lemma exists_isPaired_of_decode {text : String} {bytes : List UInt8} (h : decode text = .ok bytes) :
    ∃ digits, IsPaired text.toList digits := by
  rw [← String.ofList_toList (s := text)] at h
  obtain ⟨digits, hmarked, hdigits⟩ := decode_ofList_eq_ok.mp h
  exact ⟨digits, hmarked, isSome_hexValue?_of_map hdigits, by rw [length_of_map hdigits, Nat.mul_mod_right]⟩

end Hex

/-! ### Operations -/

namespace Module.Operation

/-- The text of the signature that an operation gets, if it is one for a signature of the service. -/
def signatureText? : (o : Operation) → o.call.1.Data → Option String
  | registrationSignature _, data => some data.signature
  | depositSignature .., data => some data.signature
  | _, _ => none

/-- An event has brought the text of a signature. -/
def Brings (o : Operation) (text : String) (e : Event) : Prop :=
  ∃ token x data, e = .called o.call.1 token x ∧ x.outcome = some (.ok data) ∧ o.signatureText? data = some text

/-- What becomes of the text of a signature. -/
structure Reads (o : Operation) (text : String) (result : Except Error Answer) : Prop where
  /-- It is accepted if it consists of digits that come in pairs. -/
  ok_iff : (∃ a, result = .ok a) ↔ ∃ digits, Hex.IsPaired text.toList digits
  /-- Then the digits are reported, made small, and no flag is set. -/
  json : ∀ a digits, result = .ok a → Hex.IsPaired text.toList digits →
    o.toJson a = .object (o.flags.map (fun flag => (flag.name, .bool false)) ++
      [("signature", .string (String.ofList ('0' :: 'x' :: digits.map asciiLower)))])
  /-- Otherwise the error says so, with the name of the operation. -/
  error : ∀ e, result = .error e →
    ∃ reason, e = .during o.name (.invalidResponse ("error decoding signature from server: " ++ reason))

variable {o : Operation} {text : String} {context : Context} {w w' : World} {events : List Event} {e : Event}

lemma call_of_signatureText? {data : o.call.1.Data} (h : o.signatureText? data = some text) :
    o.call.2 data = signatureBytes ⟨text⟩ := by
  cases o with
  | registrationSignature deployment => exact Option.some.inj h ▸ rfl
  | depositSignature deployment minipool salt => exact Option.some.inj h ▸ rfl
  | _ => cases h

/-- The text is read as bytes, which are written as its digits. -/
lemma reads_conclude {data : o.call.1.Data} (h : o.signatureText? data = some text) :
    o.Reads text (o.conclude (.ok data)) := by
  rw [conclude, call_of_signatureText? h, signatureBytes]
  cases hdecode : Hex.decode text with
  | ok bytes =>
    constructor
    · exact ⟨fun _ => Hex.exists_isPaired_of_decode hdecode, fun _ => ⟨_, rfl⟩⟩
    · rintro _ digits ⟨⟩ hdigits
      obtain ⟨bytes', hdecode', hwritten⟩ := hdigits.exists_decode
      rw [hdecode] at hdecode'
      cases hdecode'
      simp [toJson, Answer.flag?, Payload.members, Hex.encodePrefixed, hwritten]
    · intro e he
      cases he
  | error fault =>
    constructor
    · constructor
      · rintro ⟨a, ha⟩
        cases ha
      · rintro ⟨digits, hdigits⟩
        obtain ⟨bytes, hbytes, -⟩ := hdigits.exists_decode
        rw [hdecode] at hbytes
        cases hbytes
    · rintro a digits ⟨⟩
    · rintro e ⟨⟩
      exact ⟨fault.message, rfl⟩

end Module.Operation

/-- A call that succeeds is not made again, and no login follows it. -/
lemma RequestRule.exists_before {c : Call} (hc : c.isModule) {context : Context} {w w' : World}
    {result : Option (Except Error c.Data)} (h : RequestRule c context w result w') {events : List Event}
    (hlog : w'.log = w.log ++ events) {token : Option String} {x : Exchange c} {data : c.Data}
    (he : .called c token x ∈ events) (hx : x.outcome = some (.ok data)) :
    result = some (.ok data) ∧ ∃ before, events = before ++ [.called c token x] := by
  have hnotMem {x₁ : Exchange c} {token₁ : Option String} {e : Error} {rest : List Event}
      (h₁ : x₁.outcome = some (.error e)) (hquiet : ∀ e ∈ rest, e.isModuleCall = false) :
      Event.called c token x ∉ .called c token₁ x₁ :: rest := by
    intro hmem
    obtain heq | hmem := List.mem_cons.mp hmem
    · cases heq
      rw [h₁] at hx
      cases hx
    · have hmodule := hquiet _ hmem
      rw [Event.isModuleCall_called, hc] at hmodule
      cases hmodule
  cases h with
  | once x₁ hx₁ h =>
    obtain rfl : [.called c (c.tokenIn w.session) x₁] = events := List.append_cancel_left hlog
    cases List.mem_singleton.mp he
    exact ⟨hx, [], rfl⟩
  | loginDropped x₁ e w' hx₁ h₁ hinvalid hrule | loginFailed x₁ e e' w' hx₁ h₁ hinvalid hrule =>
    obtain ⟨rest, hlog', hquiet⟩ := hrule.exists_events
    have hevents : w.log ++ .called c (c.tokenIn w.session) x₁ :: rest = w.log ++ events := by
      rw [← hlog, hlog']
      simp
    obtain rfl := List.append_cancel_left hevents
    exact absurd he (hnotMem h₁ hquiet)
  | again x₁ x₂ e w₁ hx₁ h₁ hinvalid hrule hx₂ =>
    obtain ⟨rest, hlog', hquiet⟩ := hrule.exists_events
    have hevents : w.log ++ (.called c (c.tokenIn w.session) x₁ :: rest ++ [.called c (c.tokenIn w₁.session) x₂]) =
        w.log ++ events := by
      rw [← hlog]
      simp [hlog']
    obtain rfl := List.append_cancel_left hevents
    obtain hmem | hmem := List.mem_append.mp he
    · exact absurd hmem (hnotMem h₁ hquiet)
    · cases List.mem_singleton.mp hmem
      exact ⟨hx, _, rfl⟩

namespace Module.Operation

variable {o : Operation} {text : String} {context : Context} {w : World} {events : List Event} {e : Event}

lemma Brings.fault?_eq_none (h : o.Brings text e) : o.fault? = none := by
  obtain ⟨token, x, data, -, -, htext⟩ := h
  cases o with
  | registrationSignature deployment => rfl
  | depositSignature deployment minipool salt => rfl
  | _ => cases htext

lemma Brings.isModuleCall (h : o.Brings text e) : e.isModuleCall := by
  obtain ⟨token, x, data, rfl, -, -⟩ := h
  exact o.isModule_call

/-- The text that an operation gets is the last that it gets, and makes its result. -/
lemma exists_reads_of_brings (hlog : (o.run context w).2.log = w.log ++ events) (he : e ∈ events)
    (h : o.Brings text e) :
    (∃ before, events = before ++ [e]) ∧ ∃ result, (o.run context w).1 = some result ∧ o.Reads text result := by
  have hfault := h.fault?_eq_none
  obtain ⟨token, x, data, rfl, hx, htext⟩ := h
  rw [run_eq hfault, Act.run_map] at hlog ⊢
  have hrule : RequestRule o.call.1 context w (Act.request o.call.1 context w).1 (Act.request o.call.1 context w).2 :=
    .of_request rfl
  obtain ⟨hresult, hlast⟩ := hrule.exists_before o.isModule_call hlog he hx
  exact ⟨hlast, o.conclude (.ok data), congrArg (Option.map o.conclude) hresult, reads_conclude htext⟩

end Module.Operation

/-! ### Routes -/

namespace Api

lemma Reports.eq_of_invalidResponse {e : Error} {p : Problem} {text : String} (h : Reports e p)
    (hroot : e.root = .invalidResponse text) : p = ⟨500, "nodeset_error", e.message⟩ := by
  cases h with
  | input h =>
    obtain ⟨_, h | h⟩ := h
    · cases hroot.symm.trans h
    · cases hroot.symm.trans h
  | wallet h =>
    obtain h | h := h
    · cases hroot.symm.trans h
    · cases hroot.symm.trans h
  | other hemail hinput hready hloaded => rfl

/-- The answer of a route to an operation for a signature. -/
def signatureResponse (o : Operation) : Except Error Answer → Response
  | .ok a => .json 200 (o.toJson a)
  | .error e => .ofProblem ⟨500, "nodeset_error", e.message⟩

/-- An operation on a deployment is asked for only if one is named. -/
lemma deployment_ne_of_resolve {input : ModuleInput} {o : Operation} (h : input.resolve = .ok o) :
    trim input.deployment ≠ "" := by
  intro hblank
  rw [ModuleInput.resolve, if_pos (trim_eq_empty_iff.mp hblank)] at h
  cases h

namespace GateRule

variable {deployment text : String} {o : Operation} {context : Context} {w w' : World} {answer? : Option Response}
  {events : List Event} {e : Event}

/-- The text comes with the operation that is asked for, so that the answer tells what becomes of it. -/
lemma exists_reads_of_brings (h : GateRule deployment (.ok o) context w answer? w')
    (hlog : w'.log = w.log ++ events) (he : e ∈ events) (hbrings : o.Brings text e) :
    (∃ before, events = before ++ [e]) ∧
      ∃ result, o.Reads text result ∧ answer? = some (signatureResponse o result) := by
  have hmodule := hbrings.isModuleCall
  have hquiet {result : Option (Status × Option Error)} (h : LookUpRule context w result w') : False := by
    obtain ⟨events', hlog', -, -, hnone⟩ := h.bounds
    obtain rfl : events' = events := List.append_cancel_left (hlog'.symm.trans hlog)
    exact List.countP_eq_zero.mp hnone e he hmodule
  have hrun {error? : Option Error} {w₁ : World} {result? : Option (Except Error Answer)}
      (h : LookUpRule context w (some (.registered, error?)) w₁) (hresult : o.run context w₁ = (result?, w')) :
      (∃ before, events = before ++ [e]) ∧ ∃ result, result? = some result ∧ o.Reads text result := by
    obtain ⟨before, hbefore, -, -, hnone⟩ := h.bounds
    obtain ⟨first, rest, hafter, -⟩ := Operation.exists_events hbrings.fault?_eq_none context w₁
    rw [hresult] at hafter
    obtain rfl : before ++ first :: rest = events :=
      List.append_cancel_left (by rw [← List.append_assoc, ← hbefore, ← hlog, hafter])
    obtain hmem | hmem := List.mem_append.mp he
    · exact absurd hmodule (List.countP_eq_zero.mp hnone e hmem)
    · obtain ⟨⟨between, hlast⟩, result, hsome, hreads⟩ :=
        Operation.exists_reads_of_brings (by rw [hresult]; exact hafter) hmem hbrings
      rw [hresult] at hsome
      exact ⟨⟨before ++ between, by rw [hlast, List.append_assoc]⟩, result, hsome, hreads⟩
  have hnothing (hsame : w' = w) : False := by
    obtain rfl : [] = events := List.append_cancel_left (by rw [← hlog, hsame, List.append_nil])
    cases he
  cases h with
  | deploymentMissing | saltMalformed | walletUnready => exact (hnothing rfl).elim
  | lookUpDropped o' w' hready h => exact (hquiet h).elim
  | unregistered o' error? w' hready h hblank => exact (hquiet h).elim
  | walletMissing o' message error? w' hready h => exact (hquiet h).elim
  | unknown o' e' w' hready h => exact (hquiet h).elim
  | operationDropped o' error? w₁ w' hready h hresult =>
    cases hready.asked
    obtain ⟨-, result, hsome, -⟩ := hrun h hresult
    cases hsome
  | answered o' error? a w₁ w' hready h hresult hnames =>
    cases hready.asked
    obtain ⟨hlast, result, hsome, hreads⟩ := hrun h hresult
    cases hsome
    exact ⟨hlast, _, hreads, by rw [signatureResponse, (Operation.toJson_of_run hresult).1]⟩
  | failed o' error? e' p w₁ w' hready h hresult hreports =>
    cases hready.asked
    obtain ⟨hlast, result, hsome, hreads⟩ := hrun h hresult
    cases hsome
    obtain ⟨reason, rfl⟩ := hreads.error e' rfl
    exact ⟨hlast, _, hreads, by rw [signatureResponse, hreports.eq_of_invalidResponse rfl]⟩

end GateRule

end Api

/-! ### Both -/

/-- The text of a signature that an operation gets is the last that it gets from the service. The operation succeeds
if the text is an even number of digits behind at most one mark, and reports these digits, made small, without a flag;
otherwise it fails with an error about the text that bears its name. So does the route of the operation. -/
theorem signature_read_from_text (o : Operation) (text : String) (context : Context) (w : World) :
    (∀ events, ∀ e ∈ events, (o.run context w).2.log = w.log ++ events → o.Brings text e →
      (∃ before, events = before ++ [e]) ∧
        ∃ result, (o.run context w).1 = some result ∧ o.Reads text result) ∧
    (∀ (m : Api.ModuleRoute) (r : Api.Request) (input : Api.ModuleInput),
      Api.Route.ofPath? r.path = some (.module m) → r.method ∈ (Api.Route.module m).allowed →
      m.readInput r = .ok input → input.resolve = .ok o →
      ∀ freshId events, ∀ e ∈ events, (Api.handle freshId r context w).2.log = w.log ++ events → o.Brings text e →
        (∃ before, events = before ++ [e]) ∧
          ∃ result, (Api.handle freshId r context w).1 = some ((Api.signatureResponse o result).sentTo freshId r) ∧
            o.Reads text result) := by
  refine ⟨fun events e he hlog hbrings => Operation.exists_reads_of_brings hlog he hbrings,
    fun m r input hroute hmethod hinput hresolve freshId events e he hlog hbrings => ?_⟩
  have hrule : Api.GateRule input.deployment (.ok o) context w (m.respond r context w).1 (m.respond r context w).2 := by
    simp only [Api.ModuleRoute.respond, hinput, hresolve]
    exact .of_runGated (Api.deployment_ne_of_resolve hresolve) rfl
  rw [Api.handle_eq hroute hmethod, Act.run_map] at hlog ⊢
  obtain ⟨hlast, result, hreads, hanswer⟩ := hrule.exists_reads_of_brings hlog he hbrings
  exact ⟨hlast, result, congrArg (Option.map _) hanswer, hreads⟩

/-- An operation whose first call succeeds makes no other. -/
lemma Module.Operation.run_of_outcome {o : Operation} (hfault : o.fault? = none) {context : Context} {w : World}
    {data : o.call.1.Data}
    (h : (context.exchange o.call.1 w.session.token w.replies).outcome = some (.ok data)) :
    (o.run context w).1 = some (o.conclude (.ok data)) ∧ (o.run context w).2.log = w.log ++
      [.called o.call.1 w.session.token (context.exchange o.call.1 w.session.token w.replies)] := by
  have htoken : o.call.1.tokenIn w.session = w.session.token :=
    Call.tokenIn_of_usesSession (Call.usesSession_of_isModule o.isModule_call) _
  rw [run_eq hfault, Act.run_map, Act.request, Act.run_bind, Act.run_call, htoken, h]
  exact ⟨rfl, rfl⟩

/-- The world of a node whose service gives the text of a signature. -/
def World.signing (text : String) : World :=
  .serving [.granting ("\x7b\"signature\":\"" ++ text ++ "\"\x7d")]

/-- The event that brings the text. -/
def Event.signing (text : String) : Event :=
  .called (.postWhitelisting "d") none (Context.sample.exchange _ none (World.signing text).replies)

lemma brings_signing (text : String)
    (h : (Context.sample.exchange (.postWhitelisting "d") none (World.signing text).replies).outcome =
      some (.ok ⟨text⟩)) :
    ((Operation.registrationSignature "d").run .sample (.signing text)).2.log =
        (World.signing text).log ++ [.signing text] ∧
      (Operation.registrationSignature "d").Brings text (.signing text) :=
  ⟨(Operation.run_of_outcome (o := .registrationSignature "d") rfl h).2, none, _, ⟨text⟩, rfl, h, rfl⟩

/-- A signature of one byte is reported in small digits. -/
theorem signature_read_from_text_capital :
    ∃ a, ((Operation.registrationSignature "d").run .sample (.signing "0xAB")).1 = some (.ok a) ∧
      (Operation.registrationSignature "d").toJson a = .object
        [("notRegistered", .bool false), ("notAuthorized", .bool false), ("invalidPermissions", .bool false),
          ("incorrectNodeAddress", .bool false), ("signature", .string "0xab")] := by
  have hpaired : Hex.IsPaired "0xAB".toList ['A', 'B'] :=
    ⟨.marked (.inl rfl) ['A', 'B'], List.all_eq_true.mp (by decide), rfl⟩
  obtain ⟨hlog, hbrings⟩ := brings_signing "0xAB" (by decide +kernel)
  obtain ⟨-, result, hresult, hreads⟩ :=
    (signature_read_from_text (.registrationSignature "d") "0xAB" .sample (.signing "0xAB")).1 [.signing "0xAB"] _
      (List.mem_singleton_self _) hlog hbrings
  obtain ⟨a, rfl⟩ := hreads.ok_iff.mpr ⟨_, hpaired⟩
  refine ⟨a, hresult, (hreads.json a _ rfl hpaired).trans ?_⟩
  rfl

/-- A mark may be a capital letter too, so it is not true that a signature is refused unless it consists of digits, be
they behind a small mark or not. -/
theorem signature_behind_capital_mark :
    ¬ ∀ (o : Operation) (text : String) (w : World) (e : Event) (result : Except Error Answer),
      (o.run .sample w).2.log = w.log ++ [e] → o.Brings text e → (o.run .sample w).1 = some result →
      ((∃ a, result = .ok a) ↔ ∃ digits, (text.toList = digits ∨ text.toList = '0' :: 'x' :: digits) ∧
        (∀ c ∈ digits, (hexValue? c).isSome) ∧ digits.length % 2 = 0) := by
  intro h
  obtain ⟨hlog, hbrings⟩ := brings_signing "0X01" (by decide +kernel)
  have hresult : ((Operation.registrationSignature "d").run .sample (.signing "0X01")).1 =
      some (.ok (.granted (.signature [1]))) := by decide +kernel
  obtain ⟨digits, hchars | hchars, hdigits, -⟩ := (h _ _ _ _ _ hlog hbrings hresult).mp ⟨_, rfl⟩
  · exact absurd (hdigits 'X' (hchars ▸ by decide)) (by decide)
  · exact absurd hchars (by simp)

end OperatorDaemon
