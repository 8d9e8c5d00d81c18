import OperatorDaemon.Proofs.Module.Attempts
import OperatorDaemon.Proofs.Service.Wire

/-!
# What an operation sends

All that an operation sends to a module are requests of its own call, so that their body is the same however
often the call is made. To have validators signed, each deposit is sent with the exit message at its place.
-/

namespace OperatorDaemon

open OperatorDaemon.Module (Operation)
open Service (Call DepositData Error Exchange Request ValidatorRegistration ValidatorsRequest)

/-! ### Calls to modules -/

/-- An event is a call, made with some token. -/
def Event.IsCallOf (context : Context) (c : Call) (e : Event) : Prop :=
  ∃ token replies, e = .called c token (context.exchange c token replies)

/-- A request that a call has sent bears its body. -/
lemma Event.IsCallOf.body_eq {context : Context} {c : Call} {e : Event} (h : e.IsCallOf context c)
    {q : Request} (hq : e.request? = some q) : q.body = c.body? := by
  obtain ⟨token, replies, rfl⟩ := h
  exact Context.body_of_exchange hq

variable {context : Context} {w w' : World}

/-- To log in is to call no module. -/
lemma LogInRule.exists_events {result : Option (Except Error Unit)} (h : LogInRule context w result w') :
    ∃ events, w'.log = w.log ++ events ∧ ∀ e ∈ events, e.isModuleCall = false := by
  obtain ⟨events, hlog, hbounds⟩ := h.bounds
  refine ⟨events, hlog, fun e he => ?_⟩
  rw [← Bool.not_eq_true]
  exact List.countP_eq_zero.mp hbounds.module e he

/-- A call that may be made again begins with the call, and calls no module otherwise. -/
lemma RequestRule.exists_events {c : Call} {result : Option (Except Error c.Data)}
    (h : RequestRule c context w result w') :
    ∃ first rest, w'.log = w.log ++ first :: rest ∧ first.IsCallOf context c ∧
      ∀ e ∈ rest, e.isModuleCall → e.IsCallOf context c := by
  have hlogin {x : Exchange c} {login : Option (Except Error Unit)} {w' : World}
      (h : LogInRule context (w.advance [.called c (c.tokenIn w.session) x] x.rest w.session)
        login w') :
      ∃ rest, w'.log = w.log ++ .called c (c.tokenIn w.session) x :: rest ∧
        ∀ e ∈ rest, e.isModuleCall → e.IsCallOf context c := by
    obtain ⟨rest, hlog, hquiet⟩ := h.exists_events
    refine ⟨rest, by simp [hlog], fun e he hmodule => ?_⟩
    rw [hquiet e he] at hmodule
    cases hmodule
  cases h with
  | once x hx h => exact ⟨_, [], rfl, ⟨_, _, by rw [hx]⟩, by simp⟩
  | loginDropped x e w' hx h he hrule | loginFailed x e e' w' hx h he hrule =>
    obtain ⟨rest, hlog, hrest⟩ := hlogin hrule
    exact ⟨_, rest, hlog, ⟨_, _, by rw [hx]⟩, hrest⟩
  | again x x' e w' hx h he hrule hx' =>
    obtain ⟨rest, hlog, hrest⟩ := hlogin hrule
    refine ⟨.called c (c.tokenIn w.session) x, rest ++ [.called c (c.tokenIn w'.session) x'],
      by simp [hlog], ⟨_, _, by rw [hx]⟩, fun e he => ?_⟩
    obtain he | he := List.mem_append.mp he
    · exact hrest e he
    · rw [List.mem_singleton.mp he]
      exact fun _ => ⟨_, _, by rw [hx']⟩

namespace Module.Operation

/-- An operation that can be tried begins with its call, and calls no module otherwise. -/
lemma exists_events {o : Operation} (hfault : o.fault? = none) (context : Context) (w : World) :
    ∃ first rest, (o.run context w).2.log = w.log ++ first :: rest ∧ first.IsCallOf context o.call.1 ∧
      ∀ e ∈ rest, e.isModuleCall → e.IsCallOf context o.call.1 := by
  rw [run_eq hfault, Act.run_map]
  exact RequestRule.exists_events (.of_request rfl)

/-- An operation that cannot even be tried does nothing. -/
lemma run_of_fault {o : Operation} {e : Error} (hfault : o.fault? = some e) (context : Context) (w : World) :
    o.run context w = (some (.error e), w) := by
  rw [run, hfault]
  rfl

/-- An operation whose deposits and exit messages do not match cannot even be tried. -/
lemma fault?_managerSignature (deployment : String) (vault : Address) (root : Root)
    (deposits : List DepositData) (exitMessages : List String) :
    (deposits.length = exitMessages.length ∧
        (managerSignature deployment vault root deposits exitMessages).fault? = none) ∨
      (deposits.length ≠ exitMessages.length ∧ ∃ text,
        (managerSignature deployment vault root deposits exitMessages).fault? =
          some (.invalidInput text)) := by
  by_cases hlength : deposits.length = exitMessages.length
  · exact .inl ⟨hlength, if_pos hlength⟩
  · exact .inr ⟨hlength, _, if_neg hlength⟩

end Module.Operation

/-! ### Deposits and exit messages -/

/-- A request has one validator for each deposit: the deposit together with the exit message at its place. -/
structure Service.ValidatorsRequest.Pairs (request : ValidatorsRequest) (deposits : List DepositData)
    (exitMessages : List String) : Prop where
  length_eq : request.validators.length = deposits.length
  getElem_eq : ∀ (i : Nat) (hi : i < request.validators.length) (hd : i < deposits.length)
    (hm : i < exitMessages.length), request.validators[i] = ⟨deposits[i], exitMessages[i]⟩

lemma Service.ValidatorsRequest.pairs_zipWith {deposits : List DepositData} {exitMessages : List String}
    (hlength : deposits.length = exitMessages.length) (root : Root) :
    (⟨deposits.zipWith ValidatorRegistration.mk exitMessages, root⟩ : ValidatorsRequest).Pairs deposits
      exitMessages where
  length_eq := by simp [hlength]
  getElem_eq i hi hd hm := by simp

/-- To have validators signed takes one exit message for each deposit; otherwise nothing is done. The module is
called for the signature then, perhaps again after a login, and every request that it is sent can be read: it
names the root, and it brings each deposit together with the exit message at its place. -/
theorem managerSignature_pairs (deployment : String) (vault : Address) (root : Root)
    (deposits : List DepositData) (exitMessages : List String) (context : Context) (w : World) :
    let o := Operation.managerSignature deployment vault root deposits exitMessages
    (deposits.length ≠ exitMessages.length →
      ∃ text, o.run context w = (some (.error (.invalidInput text)), w)) ∧
    (deposits.length = exitMessages.length →
      ∃ events, (o.run context w).2.log = w.log ++ events ∧ 0 < events.countP Event.isModuleCall ∧
        ∀ e ∈ events, e.isModuleCall → ∀ q, e.request? = some q →
          ∃ body request, q.body = some body ∧
            ValidatorsRequest.codec.readBytes (Utf8.bytes body.text) = .ok request ∧
            request.beaconDepositRoot = root ∧ request.Pairs deposits exitMessages) := by
  intro o
  obtain ⟨hlength, hfault⟩ | ⟨hlength, text, hfault⟩ :=
    Operation.fault?_managerSignature deployment vault root deposits exitMessages
  · refine ⟨fun hne => absurd hlength hne, fun _ => ?_⟩
    obtain ⟨first, rest, hlog, hfirst, hrest⟩ := Operation.exists_events hfault context w
    have hcalls : ∀ e ∈ first :: rest, e.isModuleCall → e.IsCallOf context o.call.1 :=
      List.forall_mem_cons.mpr ⟨fun _ => hfirst, hrest⟩
    refine ⟨first :: rest, hlog, ?_, fun e he hmodule q hq => ?_⟩
    · obtain ⟨token, replies, rfl⟩ := hfirst
      exact List.countP_pos_iff.mpr ⟨_, List.mem_cons_self, o.isModule_call⟩
    · exact ⟨_, _, (hcalls e he hmodule).body_eq hq,
        Service.ValidatorsRequest.faithful.readBytes_text_encode _, rfl,
        Service.ValidatorsRequest.pairs_zipWith hlength root⟩
  · exact ⟨fun _ => ⟨text, Operation.run_of_fault hfault context w⟩, fun heq => absurd heq hlength⟩

end OperatorDaemon
