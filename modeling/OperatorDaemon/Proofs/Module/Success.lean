import OperatorDaemon.Proofs.Module.Attempts
import OperatorDaemon.Proofs.Session.Admission

/-!
# What counts as a success

A call succeeds by a reply with a status of success whose envelope can be read and holds the data, if the call
is one for data. Whatever else the envelope says of itself, be it that it is none of success or the key of an
error, makes no difference. The successes of registrations, operations and logins rest on such replies.
-/

namespace OperatorDaemon

open Daemon (Task)
open OperatorDaemon.Module (Answer Operation Payload)
open Service (Call Envelope Error Exchange LoginRequest NoData Reply isSuccess)

/-! ### Registrations and operations -/

/-- A registration is a success if the reply to it grants it. -/
lemma RegisterRule.granted {key : PrivateKey} {email : String} {context : Context} {w w' : World}
    (h : RegisterRule key email context w (some (.ok .success)) w') :
    ∃ data events,
      w'.log = w.log ++ .called (.nodeAddress (.signed key email)) w.session.token
        (context.exchange _ w.session.token w.replies) :: events ∧
      context.Grants (.nodeAddress (.signed key email)) w.session.token w.replies data := by
  generalize hresult : some (Except.ok Registration.success) = result at h
  cases h with
  | dropped x hx hreply => cases hresult
  | refused x e hx hreply =>
    have hrefusal := Option.some.inj hresult
    unfold Registration.ofRefusal at hrefusal
    split at hrefusal <;> cases hrefusal
  | accepted x data login w' hx hreply hlogin =>
    subst hx
    obtain ⟨events, hlog, -⟩ := hlogin.bounds
    exact ⟨data, events, by simp [hlog], Context.outcome_eq_ok.mp hreply⟩

lemma Module.Operation.conclude_eq_granted {o : Operation} {outcome : Except Error o.call.1.Data}
    {payload : Payload} :
    o.conclude outcome = .ok (.granted payload) ↔
      ∃ data, outcome = .ok data ∧ o.call.2 data = .ok payload := by
  cases outcome with
  | error e =>
    simp only [conclude, refusal]
    split <;> simp
  | ok data => cases hpayload : o.call.2 data <;> simp [conclude, hpayload]

/-- An operation is granted if the reply to its last attempt grants it. -/
lemma Attempts.granted {o : Operation} {context : Context} {w : World} {events : List Event}
    {payload : Payload} (h : Attempts o context w events (.ok (.granted payload))) :
    ∃ before token replies data,
      events = before ++ [.called o.call.1 token (context.exchange _ token replies)] ∧
        context.Grants o.call.1 token replies data ∧ o.call.2 data = .ok payload := by
  generalize hresult : Except.ok (Answer.granted payload) = result at h
  cases h with
  | once x outcome hx hkept houtcome =>
    obtain ⟨data, rfl, hpayload⟩ := Operation.conclude_eq_granted.mp hresult.symm
    exact ⟨[], _, _, data, by rw [hx]; rfl, Context.outcome_eq_ok.mp (hx ▸ houtcome), hpayload⟩
  | loginFailed x login e hx haway hlogin =>
    obtain ⟨data, hdata, -⟩ := Operation.conclude_eq_granted.mp hresult.symm
    cases hdata
  | again x x' token' replies' n challenge r l outcome hx haway hlogin hx' hsame houtcome =>
    obtain ⟨data, rfl, hpayload⟩ := Operation.conclude_eq_granted.mp hresult.symm
    exact ⟨.called _ w.session.token x :: loginEvents n challenge.token l, token', replies', data,
      by rw [hx']; rfl, Context.outcome_eq_ok.mp (hx' ▸ houtcome), hpayload⟩

/-! ### Logins -/

/-- Whether an event, if it is a call, is what has come of it. -/
def Event.IsExchange (context : Context) : Event → Prop
  | .loginStarted _ => True
  | .called c token x => ∃ replies, x = context.exchange c token replies

/-- The law that what is recorded of calls is what has come of them. -/
def Law.exchanging : Law where
  rel context p _ p' := ∃ events, p'.log = p.log ++ events ∧ ∀ e ∈ events, e.IsExchange context
  refl _ p := GrowsBy.refl _ p.log
  trans := GrowsBy.trans

lemma Challenged.isExchange {context : Context} {w : World} {key : PrivateKey}
    {challenge : Service.Challenge} {n : Exchange .nonce}
    {l : Exchange (.login (.answering key challenge))} (h : Challenged context w key challenge n l) :
    ∀ e ∈ loginEvents n challenge.token l, e.IsExchange context := by
  simp only [loginEvents, List.forall_mem_cons]
  exact ⟨trivial, ⟨_, h.asked⟩, ⟨_, h.answered⟩, by simp⟩

/-- What is recorded of calls is what has come of them. -/
theorem Law.holds_exchanging : Law.exchanging.Holds where
  logIn := by
    rintro context w result w' hrule
    have hunchallenged {n : Exchange .nonce} (hn : n = context.exchange .nonce none w.replies) :
        ∀ e ∈ [.loginStarted true, .called .nonce none n], Event.IsExchange context e := by
      simpa [Event.IsExchange] using ⟨_, hn⟩
    cases hrule with
    | unready h => exact ⟨_, rfl, by simp [Event.IsExchange]⟩
    | challengeDropped key n hkey hn h => exact ⟨_, rfl, hunchallenged hn⟩
    | challengeRefused key n e hkey hn h => exact ⟨_, rfl, hunchallenged hn⟩
    | answerDropped key challenge n l h hl => exact ⟨_, rfl, h.isExchange⟩
    | admitted key challenge n l grant h hl => exact ⟨_, rfl, h.isExchange⟩
    | unregistered key challenge n l h hl => exact ⟨_, rfl, h.isExchange⟩
    | walletMissing key challenge n l h hl => exact ⟨_, rfl, h.isExchange⟩
    | answerRefused key challenge n l e h hl hu hw => exact ⟨_, rfl, h.isExchange⟩
  call := by
    intro context w c x hc hx
    exact ⟨_, rfl, by simpa [Event.IsExchange] using ⟨_, hx⟩⟩
  registered := by
    intro context w r x hx h
    exact ⟨_, rfl, by simpa [Event.IsExchange] using ⟨_, hx⟩⟩
  refused := by
    intro context w r x e hx h
    exact ⟨_, rfl, by simpa [Event.IsExchange] using ⟨_, hx⟩⟩
  wallet := fun _ _ _ => ⟨[], by simp⟩

/-- An event is a login that is granted by the reply that came. -/
def Event.IsGrantedLogin (context : Context) (e : Event) : Prop :=
  ∃ (r : LoginRequest) (token : Option String) (replies : List Reply) (grant : Service.Grant),
    e = .called (.login r) token (context.exchange _ token replies) ∧
      context.Grants (.login r) token replies grant

lemma Event.isGrantedLogin_of_verdict {context : Context} {e : Event} (h : e.IsExchange context)
    (hverdict : e.verdict? = some .registered) : e.IsGrantedLogin context := by
  obtain ⟨r, token, l, grant, rfl, hl⟩ := exists_grant hverdict
  obtain ⟨replies, rfl⟩ := h
  exact ⟨r, token, replies, grant, rfl, Context.outcome_eq_ok.mp hl⟩

/-- A task lets the node be believed to be registered by a login that is granted, and only so. -/
lemma Daemon.Task.isGrantedLogin_act (t : Task) (context : Context) (w : World) :
    ∃ events, (t.act context w).2.log = w.log ++ events ∧
      (∀ e ∈ events, e.verdict? = some .registered → e.IsGrantedLogin context) ∧
      ((t.act context w).2.session.status = .registered → w.session.status ≠ .registered →
        ∃ e ∈ events, e.verdict? = some .registered) := by
  obtain ⟨events, hlog, hevents⟩ :=
    Law.holds_exchanging.obeys_task (t := t) (fun _ => Law.holds_exchanging.wallet) context w
  obtain ⟨events', hlog', hstatus, -⟩ :=
    Verdict.holds_law.obeys_task (t := t) (fun _ => Verdict.holds_law.wallet) context w
  -- Both laws tell what the log has grown by, so they speak of the same events.
  obtain rfl : events' = events := List.append_cancel_left (hlog'.symm.trans hlog)
  refine ⟨events', hlog, fun e he => Event.isGrantedLogin_of_verdict (hevents e he),
    fun hregistered hbefore => ?_⟩
  exact List.mem_filterMap.mp (Status.registered_mem_of_foldl (hstatus ▸ hregistered) hbefore)

/-! ### Successes -/

/-- A call succeeds if the reply that comes has a status of success and an envelope with the data of the call,
and only then; two such replies with the same data come to the same, whatever their envelopes say besides. A
registration is a success, an operation is granted, and the node comes to be believed to be registered only by
a reply that grants the registration, the last attempt of the operation, or the login. -/
theorem grants_of_success (context : Context) (w : World) :
    (∀ (c : Call) token replies data,
      (context.exchange c token replies).outcome = some (.ok data) ↔
        context.Grants c token replies data) ∧
    (∀ (c : Call) label status status' body body' (e e' : Envelope c.Data),
      isSuccess status → isSuccess status' → (Envelope.codec c.codec).readBytes body = .ok e →
        (Envelope.codec c.codec).readBytes body' = .ok e' → e.data = e'.data →
        c.read label status body = c.read label status' body') ∧
    (∀ text w', Act.register text context w = (some (.ok .success), w') →
      ∃ key email data events,
        w'.log = w.log ++ .called (.nodeAddress (.signed key email)) w.session.token
          (context.exchange _ w.session.token w.replies) :: events ∧
        context.Grants (.nodeAddress (.signed key email)) w.session.token w.replies data) ∧
    (∀ (o : Operation) payload w', o.run context w = (some (.ok (.granted payload)), w') →
      ∃ events token replies data,
        w'.log = w.log ++ events ++ [.called o.call.1 token (context.exchange _ token replies)] ∧
        context.Grants o.call.1 token replies data ∧ o.call.2 data = .ok payload) ∧
    ∀ t : Task, ∃ events, (t.act context w).2.log = w.log ++ events ∧
      (∀ e ∈ events, e.verdict? = some .registered → e.IsGrantedLogin context) ∧
      ((t.act context w).2.session.status = .registered → w.session.status ≠ .registered →
        ∃ e ∈ events, e.verdict? = some .registered) := by
  refine ⟨fun _ _ _ _ => Context.outcome_eq_ok,
    fun _ _ _ _ _ _ _ _ hstatus hstatus' he he' => Call.read_congr hstatus hstatus' he he',
    fun text w' hrun => ?_, fun o payload w' hrun => ?_, fun t => t.isGrantedLogin_act context w⟩
  · obtain ⟨key, email, hrule⟩ := RegisterRule.of_register hrun
    exact ⟨key, email, hrule.granted⟩
  · cases hfault : o.fault? with
    | some e => simp [Operation.run, hfault] at hrun
    | none =>
      obtain ⟨events, hlog, hattempts⟩ := Attempts.of_run hfault hrun
      obtain ⟨before, token, replies, data, rfl, hgrants⟩ := hattempts.granted
      exact ⟨before, token, replies, data, by rw [hlog, List.append_assoc], hgrants⟩

/-- The world of a node whose service gives some replies. -/
def World.serving (replies : List Reply) : World where
  wallet := Wallet.empty.load .sample
  replies

/-- A registration that is accepted is a success, and the reply grants it. -/
theorem grants_of_success_accepted :
    let w := World.serving [.granting "\x7b\x7d"]
    (Act.register "a@b" .sample w).1 = some (Except.ok Registration.success) ∧
      ∃ key email data,
        Context.sample.Grants (.nodeAddress (.signed key email)) w.session.token w.replies data := by
  intro w
  have hresult : (Act.register "a@b" .sample w).1 = some (Except.ok Registration.success) := by
    decide +kernel
  rcases hrun : Act.register "a@b" .sample w with ⟨result, w'⟩
  rw [hrun] at hresult
  obtain rfl : result = _ := hresult
  obtain ⟨key, email, data, -, -, hgrants⟩ := (grants_of_success .sample w).2.2.1 _ w' hrun
  exact ⟨rfl, key, email, data, hgrants⟩

/-- The body of a reply that calls itself none of success, names an error, and holds some data. -/
def Service.contradiction (data : String) : List UInt8 :=
  Utf8.bytes ("\x7b\"ok\":false,\"error\":\"already_registered\",\"data\":" ++ data ++ "\x7d")

/-- With a status of success such a reply makes a registration a success, grants exit messages that are handed
in, and lets the node in. -/
theorem success_of_contradiction :
    let empty := Service.contradiction "null"
    let grant := Service.contradiction "\x7b\"token\":\"g\"\x7d"
    ((Envelope.codec NoData.codec).readBytes empty).toOption.map (fun e => (e.ok, e.error)) =
        some (false, "already_registered") ∧
      ((Envelope.codec Service.Grant.codec).readBytes grant).toOption.map (fun e => (e.ok, e.error)) =
        some (false, "already_registered") ∧
      (Act.register "a@b" .sample (.serving [.answer 200 empty])).1 =
        some (Except.ok Registration.success) ∧
      ((Operation.uploadExits "d" []).run .sample (.serving [.answer 200 empty])).1 =
        some (Except.ok (Answer.granted Payload.nothing)) ∧
      (Act.logIn .sample (.serving (Reply.login.take 1 ++ [.answer 200 grant]))).2.session.status =
        .registered := by
  decide +kernel

end OperatorDaemon
