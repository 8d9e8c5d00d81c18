import OperatorDaemon.Proofs.Api.Report
import OperatorDaemon.Proofs.Ethereum.Salt
import OperatorDaemon.Proofs.Module.Body

/-!
# The salt of a deposit

A request for the signature that permits a deposit is turned away if its salt denotes no number of 256 bits.
Otherwise it goes through the gate, and whatever is sent to the module bears the number that the salt denotes.
-/

namespace OperatorDaemon

open OperatorDaemon.Api (GateRule Response)
open Json (Codec)
open OperatorDaemon.Module (Operation)
open Service (Call DepositSignatureRequest Error)

/-! ### Errors that are not about input -/

/-- An error is about what the operator has given. -/
def Service.Error.IsInput (e : Error) : Prop :=
  ∃ text, e.root = .invalidEmail text ∨ e.root = .invalidInput text

namespace Service.Error

lemma not_isInput_of_root {e : Error} (hemail : ∀ text, e.root ≠ .invalidEmail text)
    (hinput : ∀ text, e.root ≠ .invalidInput text) : ¬ e.IsInput := by
  rintro ⟨text, h | h⟩
  · exact hemail text h
  · exact hinput text h

@[simp] lemma isInput_during {operation : String} {e : Error} : (during operation e).IsInput ↔ e.IsInput :=
  Iff.rfl

/-- No refusal of the service is about what the operator has given. -/
lemma not_isInput_ofKey (status : Nat) (key text : String) : ¬ (ofKey status key text).IsInput := by
  unfold ofKey
  split <;> exact not_isInput_of_root (fun _ => Error.noConfusion) fun _ => Error.noConfusion

lemma not_isInput_readRefusal (status : Nat) (body : List UInt8) :
    ¬ (Service.readRefusal status body).IsInput := by
  unfold Service.readRefusal
  split <;> exact not_isInput_ofKey _ _ _

lemma not_isInput_of_read {c : Call} {label : Service.ReplyLabel} {status : Nat} {body : List UInt8} {e : Error}
    (h : c.read label status body = .error e) : ¬ e.IsInput := by
  unfold Call.read Service.readEnvelope at h
  split_ifs at h with hsuccess
  · cases hbody : (Service.Envelope.codec c.codec).readBytes body with
    | error failure =>
      rw [hbody] at h
      cases h
      exact not_isInput_of_root (fun _ => Error.noConfusion) fun _ => Error.noConfusion
    | ok envelope =>
      simp only [hbody, Except.mapError] at h
      split at h
      · cases h
      · cases h
        exact not_isInput_of_root (fun _ => Error.noConfusion) fun _ => Error.noConfusion
  · cases h
    exact not_isInput_readRefusal status body

end Service.Error

/-- No call fails because of what the operator has given. -/
lemma Context.not_isInput_of_outcome {context : Context} {c : Call} {token : Option String}
    {replies : List Service.Reply} {e : Error}
    (h : (context.exchange c token replies).outcome = some (.error e)) : ¬ e.IsInput := by
  cases hreply : context.reply? c token replies with
  | none =>
    obtain hnone | ⟨text, htext⟩ := outcome_of_no_reply hreply
    · rw [h] at hnone
      cases hnone
    · rw [h] at htext
      cases htext
      exact Error.not_isInput_of_root (fun _ => Error.noConfusion) fun _ => Error.noConfusion
  | some reply =>
    obtain ⟨status, body⟩ := reply
    obtain ⟨label, houtcome⟩ := outcome_of_reply hreply
    rw [h] at houtcome
    exact Error.not_isInput_of_read (Option.some.inj houtcome).symm

/-- No attempt to log in fails because of what the operator has given. -/
lemma LogInRule.not_isInput {context : Context} {w w' : World} {e : Error}
    (h : LogInRule context w (some (.error e)) w') : ¬ e.IsInput := by
  cases h with
  | unready hkey => exact Error.not_isInput_of_root (fun _ => Error.noConfusion) fun _ => Error.noConfusion
  | challengeRefused key n e hkey hn h =>
    rw [Error.isInput_during]
    exact Context.not_isInput_of_outcome (hn ▸ h)
  | walletMissing key challenge n l h hl =>
    exact Error.not_isInput_of_root (fun _ => Error.noConfusion) fun _ => Error.noConfusion
  | answerRefused key challenge n l e h hl hu hw =>
    rw [Error.isInput_during]
    exact Context.not_isInput_of_outcome (h.answered ▸ hl)

lemma RequestRule.not_isInput {c : Call} {context : Context} {w w' : World} {e : Error}
    (h : RequestRule c context w (some (.error e)) w') : ¬ e.IsInput := by
  generalize hresult : some (Except.error e) = result at h
  cases h with
  | once x hx h =>
    rw [hx] at hresult
    exact Context.not_isInput_of_outcome hresult.symm
  | loginDropped x e w' hx h he hrule => cases hresult
  | loginFailed x e e' w' hx h he hrule =>
    cases hresult
    exact hrule.not_isInput
  | again x x' e w' hx h he hrule hx' =>
    rw [hx'] at hresult
    exact Context.not_isInput_of_outcome hresult.symm

namespace Module.Operation

/-- What is made of the data of a call may fail, but not because of what the operator has given. -/
lemma not_isInput_of_call {o : Operation} {data : o.call.1.Data} {e : Error}
    (h : o.call.2 data = .error e) : ¬ e.IsInput := by
  have hsignature {s : Service.SignatureReply} (h : signatureBytes s = .error e) : ¬ e.IsInput := by
    unfold signatureBytes at h
    split at h
    · cases h
    · cases h
      exact Error.not_isInput_of_root (fun _ => Error.noConfusion) fun _ => Error.noConfusion
  cases o with
  | registrationSignature deployment => exact hsignature h
  | depositSignature deployment minipool salt => exact hsignature h
  | _ => cases h

/-- An operation that can be tried does not fail because of what the operator has given. -/
lemma not_isInput_of_run {o : Operation} (hfault : o.fault? = none) {context : Context} {w w' : World}
    {e : Error} (h : o.run context w = (some (.error e), w')) : ¬ e.IsInput := by
  rw [run_eq hfault, Act.run_map] at h
  obtain ⟨hmap, -⟩ := Prod.ext_iff.mp h
  obtain ⟨outcome, houtcome, hconclude⟩ := Option.map_eq_some_iff.mp hmap
  have hrule := RequestRule.of_request (c := o.call.1) (Prod.ext houtcome rfl)
  cases outcome with
  | error e' =>
    dsimp only [conclude, refusal] at hconclude
    split at hconclude
    · cases hconclude
    · cases hconclude
      exact hrule.not_isInput
  | ok data =>
    dsimp only [conclude] at hconclude
    split at hconclude
    · cases hconclude
    · rename_i hcall
      cases hconclude
      rw [Error.isInput_during]
      exact not_isInput_of_call hcall

end Module.Operation

/-! ### Through the gate -/

namespace Api.GateRule

variable {deployment : String} {o : Operation} {context : Context} {w w' : World} {answer? : Option Response}

/-- An operation that can be tried is not turned away at the gate because of the input. -/
lemma status_ne {answer : Response} (h : GateRule deployment (.ok o) context w (some answer) w')
    (hdeployment : trim deployment ≠ "") (hfault : o.fault? = none) : answer.status ≠ 400 := by
  cases h with
  | deploymentMissing hblank => exact absurd hblank hdeployment
  | saltMalformed message hdeployment hasked => cases hasked
  | walletUnready | walletMissing => exact (by decide : 409 ≠ 400)
  | unregistered | answered => exact (by decide : 200 ≠ 400)
  | unknown => exact (by decide : 500 ≠ 400)
  | failed o' error? e p w₁ w' hready hlookUp hrun hreports =>
    cases hready.asked
    cases hreports with
    | input h => exact absurd h (Operation.not_isInput_of_run hfault hrun)
    | wallet h => exact (by decide : 409 ≠ 400)
    | other hemail hinput hready hloaded => exact (by decide : 500 ≠ 400)

/-- Behind the gate all calls to modules are those of the operation that is asked for. -/
lemma exists_events (h : GateRule deployment (.ok o) context w answer? w') (hfault : o.fault? = none) :
    ∃ events, w'.log = w.log ++ events ∧ ∀ e ∈ events, e.isModuleCall → e.IsCallOf context o.call.1 := by
  have hquiet {result : Option (Status × Option Error)} {w' : World} (h : LookUpRule context w result w') :
      ∃ events, w'.log = w.log ++ events ∧
        ∀ e ∈ events, e.isModuleCall → e.IsCallOf context o.call.1 := by
    obtain ⟨events, hlog, -, -, hmodule⟩ := h.bounds
    exact ⟨events, hlog, fun e he hcall => absurd hcall (List.countP_eq_zero.mp hmodule e he)⟩
  have hrun {error? : Option Error} {w₁ : World}
      (h : LookUpRule context w (some (.registered, error?)) w₁) :
      ∃ events, (o.run context w₁).2.log = w.log ++ events ∧
        ∀ e ∈ events, e.isModuleCall → e.IsCallOf context o.call.1 := by
    obtain ⟨events, hlog, hevents⟩ := hquiet h
    obtain ⟨first, rest, hlog', hfirst, hrest⟩ := Operation.exists_events hfault context w₁
    refine ⟨events ++ first :: rest, by rw [hlog', hlog, List.append_assoc], fun e he => ?_⟩
    obtain he | he := List.mem_append.mp he
    · exact hevents e he
    · exact List.forall_mem_cons.mpr ⟨fun _ => hfirst, hrest⟩ e he
  cases h with
  | deploymentMissing | saltMalformed | walletUnready => exact ⟨[], by simp, by simp⟩
  | lookUpDropped o' w' hready h => exact hquiet h
  | unregistered o' error? w' hready h hblank => exact hquiet h
  | walletMissing o' message error? w' hready h => exact hquiet h
  | unknown o' e w' hready h => exact hquiet h
  | operationDropped o' error? w₁ w' hready h hresult =>
    cases hready.asked
    simpa [hresult] using hrun h
  | answered o' error? a w₁ w' hready h hresult hnames =>
    cases hready.asked
    simpa [hresult] using hrun h
  | failed o' error? e p w₁ w' hready h hresult hreports =>
    cases hready.asked
    simpa [hresult] using hrun h

end Api.GateRule

/-! ### Requests -/

/-- An event sends to a module no request but for a deposit that goes to some minipool with some salt. -/
def Event.TellsDeposit (minipool : Address) (salt : Nat) (e : Event) : Prop :=
  ∀ q, e.isModuleCall → e.request? = some q → ∃ body request, q.body = some body ∧
    DepositSignatureRequest.codec.readBytes (Utf8.bytes body.text) = .ok request ∧
    request.minipoolAddress = minipool ∧ request.salt.value = salt

namespace Api

/-- A request asks for the signature that permits a deposit, and names the deployment. -/
structure AsksDeposit (r : Request) (deployment : String) (minipool : Address) (text : String) : Prop where
  route : Route.ofPath? r.path = some (.module .depositSignature)
  method : r.method ∈ (Route.module .depositSignature).allowed
  query : r.readQuery (Codec.record "DepositSignatureQuery" depositShape) =
    .ok (deployment, minipool, text, ())
  named : trim deployment ≠ ""

variable {r : Request} {deployment text : String} {minipool : Address}

/-- A deposit whose salt can be read goes through the gate, and any other is turned away. -/
lemma AsksDeposit.handle_eq (h : AsksDeposit r deployment minipool text) (freshId : String) :
    handle freshId r = (fun answer => answer.sentTo freshId r) <$>
      match Salt.parse (trim text) with
      | .ok salt => runGated (.depositSignature (trim deployment) minipool salt)
      | .error fault => pure (.ofProblem
          ⟨400, "invalid_input", "invalid salt '" ++ text ++ "': " ++ fault.message⟩) := by
  have hread : ModuleRoute.depositSignature.readInput r =
      .ok ⟨deployment, fun d => (readSalt text).map (.depositSignature d minipool)⟩ := by
    rw [ModuleRoute.readInput, h.query]
    rfl
  rw [Api.handle_eq h.route h.method, Route.respond, ModuleRoute.respond, hread]
  simp only [ModuleInput.resolve, ← trim_eq_empty_iff, h.named, if_false, readSalt]
  cases Salt.parse (trim text) <;> rfl

/-- A deposit goes through the gate if its salt denotes a number of 256 bits. It is not turned away for its input
then, and all that the module is asked for is a deposit to the minipool with this number. With any other salt it
is turned away and nothing happens. A salt in plain digits denotes exactly one number. -/
theorem deposit_salt_denotes (h : AsksDeposit r deployment minipool text) (freshId : String)
    (context : Context) (w : World) :
    (∀ n, Salt.Denotes (trim text).toList n → ∀ hn : n < saltLimit,
      handle freshId r = (fun answer => answer.sentTo freshId r) <$>
          runGated (.depositSignature (trim deployment) minipool ⟨n, hn⟩) ∧
        (∀ answer, (handle freshId r context w).1 = some answer → answer.status ≠ 400) ∧
        ∃ events, (handle freshId r context w).2.log = w.log ++ events ∧
          ∀ e ∈ events, e.TellsDeposit minipool n) ∧
    ((∀ n, Salt.Denotes (trim text).toList n → saltLimit ≤ n) →
      ∃ message, handle freshId r context w =
        (some ((Response.ofProblem ⟨400, "invalid_input", message⟩).sentTo freshId r), w)) ∧
    (Salt.IsPlain (trim text).toList → ∃! n, Salt.Denotes (trim text).toList n) := by
  refine ⟨fun n hdenotes hn => ?_, fun hnone => ?_, fun hplain => ?_⟩
  · have hsalt : Salt.parse (trim text) = .ok ⟨n, hn⟩ := Salt.parse_eq_ok.mpr hdenotes
    have hhandle := h.handle_eq freshId
    rw [hsalt] at hhandle
    have hrule : GateRule deployment (.ok (.depositSignature (trim deployment) minipool ⟨n, hn⟩)) context w
        (runGated (.depositSignature (trim deployment) minipool ⟨n, hn⟩) context w).1
        (runGated (.depositSignature (trim deployment) minipool ⟨n, hn⟩) context w).2 :=
      .of_runGated h.named rfl
    refine ⟨hhandle, fun answer hanswer => ?_, ?_⟩
    · rw [hhandle, Act.run_map, Option.map_eq_some_iff] at hanswer
      obtain ⟨told, htold, rfl⟩ := hanswer
      rw [htold] at hrule
      rw [Response.status_sentTo]
      exact hrule.status_ne h.named rfl
    · obtain ⟨events, hlog, hcalls⟩ := hrule.exists_events rfl
      rw [hhandle, Act.run_map]
      exact ⟨events, hlog, fun e he q hmodule hq => ⟨_, _, (hcalls e he hmodule).body_eq hq,
        DepositSignatureRequest.faithful.readBytes_text_encode _, rfl, rfl⟩⟩
  · rw [h.handle_eq freshId, Act.run_map]
    cases hsalt : Salt.parse (trim text) with
    | ok salt => exact absurd salt.value_lt (Nat.not_lt.mpr (hnone _ (Salt.parse_eq_ok.mp hsalt)))
    | error fault => exact ⟨_, rfl⟩
  · obtain ⟨n, hn⟩ := hplain.exists_denotes
    exact ⟨n, hn, fun m hm => hm.unique hn⟩

/-- A request for the signature that permits a deposit, with some salt. -/
def Request.forDeposit (salt : String) : Request where
  method := "GET"
  target := "/api/v1/nodeset/constellation/get-deposit-signature?deployment=d&minipoolAddress=" ++
    "0x0000000000000000000000000000000000000000&salt=" ++ salt
  headers := []
  body := []

/-- The world of a node that has not logged in yet, and whose service grants a login and then a signature. -/
def signingWorld : World where
  wallet := Wallet.empty.load .sample
  replies := Service.Reply.login ++ [.granting "\x7b\"signature\":\"0x01\"\x7d"]

/-- The characters of the target. They are taken off the literals, since computing them from bytes takes long. -/
lemma toList_target_forDeposit (salt : String) :
    (Request.forDeposit salt).target.toList =
      "/api/v1/nodeset/constellation/get-deposit-signature?deployment=d&minipoolAddress=".toList ++
        "0x0000000000000000000000000000000000000000&salt=".toList ++ salt.toList := by
  rw [Request.forDeposit, String.toList_append, String.toList_append]

lemma asksDeposit_blank : AsksDeposit (.forDeposit "") "d" .zero "" where
  route := by
    rw [Request.path, toList_target_forDeposit, String.toList_ofList, String.toList_ofList, String.toList_ofList]
    decide +kernel
  method := List.mem_cons_self
  query := by
    rw [Request.readQuery, Request.query, toList_target_forDeposit, String.toList_ofList, String.toList_ofList,
      String.toList_ofList]
    decide +kernel
  named := by decide

lemma asksDeposit_hex : AsksDeposit (.forDeposit "0xff") "d" .zero "0xff" where
  route := by
    rw [Request.path, toList_target_forDeposit, String.toList_ofList, String.toList_ofList, String.toList_ofList]
    decide +kernel
  method := List.mem_cons_self
  query := by
    rw [Request.readQuery, Request.query, toList_target_forDeposit, String.toList_ofList, String.toList_ofList,
      String.toList_ofList]
    decide +kernel
  named := by decide

/-- A salt in hexadecimal digits is let through, and the module is asked for a deposit with their number. -/
theorem deposit_salt_denotes_hex :
    AsksDeposit (.forDeposit "0xff") "d" .zero "0xff" ∧
      (handle "id" (.forDeposit "0xff") .sample signingWorld).1.map Response.status = some 200 ∧
      ∃ events, (handle "id" (.forDeposit "0xff") .sample signingWorld).2.log = signingWorld.log ++ events ∧
        events.countP Event.isModuleCall = 1 ∧ ∀ e ∈ events, e.TellsDeposit .zero 255 := by
  have hsalt : Salt.parse (trim "0xff") = .ok ⟨255, by decide⟩ := by decide +kernel
  have hrun : ((handle "id" (.forDeposit "0xff") .sample signingWorld).1.map Response.status,
      (handle "id" (.forDeposit "0xff") .sample signingWorld).2.log.countP Event.isModuleCall) =
        (some 200, 1) := by decide +kernel
  obtain ⟨hstatus, hcount⟩ := Prod.mk.inj hrun
  obtain ⟨-, -, events, hlog, htells⟩ := (deposit_salt_denotes asksDeposit_hex "id" .sample signingWorld).1 255
    (Salt.parse_eq_ok.mp hsalt) (by decide)
  rw [hlog] at hcount
  exact ⟨asksDeposit_hex, hstatus, events, hlog, hcount, htells⟩

/-- So it is not true that every salt without any digit is turned away: a blank one is let through. -/
theorem not_turnedAway_of_blank_salt :
    ¬ ∀ (r : Request) (deployment text : String) (minipool : Address) (answer : Response),
      AsksDeposit r deployment minipool text → ¬ Salt.IsPlain (trim text).toList →
      (handle "id" r .sample signingWorld).1 = some answer → answer.status = 400 := by
  intro h
  have hstatus : (handle "id" (.forDeposit "") .sample signingWorld).1.map Response.status = some 200 := by
    decide +kernel
  obtain ⟨answer, hanswer, h200⟩ := Option.map_eq_some_iff.mp hstatus
  have hblank : ¬ Salt.IsPlain (trim "").toList := by
    rintro ⟨hne, -⟩
    exact hne (by decide)
  have h400 := h _ _ _ _ answer asksDeposit_blank hblank hanswer
  rw [h200] at h400
  exact absurd h400 (by decide)

end Api

end OperatorDaemon
