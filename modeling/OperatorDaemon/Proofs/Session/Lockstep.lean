import OperatorDaemon.Proofs.Service.Likeness
import OperatorDaemon.Proofs.Session.Rules

/-!
# Operations that differ in their tokens

Two worlds are twins if they differ in nothing but the tokens that have come, the authorizations that have been
sent, and the replies to come. An operation that is carried out in both of them, with replies that are alike,
ends in the same way and leaves twins behind: it is discreet about the tokens.
-/

namespace OperatorDaemon

open Service (Call Challenge Error Exchange Grant ScriptsAlike TokensAlike)

/-! ### Twins -/

/-- The call of an event, if its request has reached the service. -/
def Event.arrived? : Event → Option Call
  | .loginStarted _ => none
  | .called c _ x => if x.request.isSome then some c else none

/-- The calls that have reached the service, in their order. -/
def arrivals (events : List Event) : List Call := events.filterMap Event.arrived?

@[simp] lemma arrivals_nil : arrivals [] = [] := rfl

@[simp] lemma arrivals_append (events events' : List Event) :
    arrivals (events ++ events') = arrivals events ++ arrivals events' := List.filterMap_append

lemma arrivals_called {c : Call} (token : Option String) (x : Exchange c) :
    arrivals [.called c token x] = if x.request.isSome then [c] else [] := by
  cases h : x.request <;> simp [arrivals, Event.arrived?, h]

lemma Event.requests_called {c : Call} (token : Option String) (x : Exchange c) :
    [called c token x].filterMap request? = x.request.toList := by
  cases h : x.request <;> simp [request?, h]

/-- Two sessions are twins: they differ in their tokens at most. -/
structure Session.Twin (s s' : Session) : Prop where
  token : TokensAlike s.token s'.token
  status : s.status = s'.status
  lastLogin : s.lastLogin = s'.lastLogin

/-- Two worlds are twins: they differ in the tokens and the authorizations at most, and in what the replies to
come say. -/
structure World.Twin (w w' : World) : Prop where
  wallet : w.wallet = w'.wallet
  disk : w.disk = w'.disk
  session : w.session.Twin w'.session
  requests : w.requests.map Service.Request.anonymous = w'.requests.map Service.Request.anonymous
  pending : w.replies.length = w'.replies.length

namespace Session.Twin

variable {s s' : Session}

lemma refl (s : Session) : s.Twin s := ⟨.same _, rfl, rfl⟩

lemma withStatus (h : s.Twin s') (status : Status) : (s.withStatus status).Twin (s'.withStatus status) :=
  ⟨h.token, rfl, h.lastLogin⟩

lemma withDoubt (h : s.Twin s') : s.withDoubt.Twin s'.withDoubt := by
  unfold Session.withDoubt
  rw [h.status]
  split
  · exact h
  · exact h.withStatus .unknown

lemma withToken (h : s.Twin s') {token token' : String} (htoken : TokensAlike (some token) (some token')) :
    (s.withToken token).Twin (s'.withToken token') :=
  ⟨htoken, h.status, h.lastLogin⟩

lemma admitted {token token' : String} (htoken : TokensAlike (some token) (some token'))
    (now : String) : (s.admitted token now).Twin (s'.admitted token' now) :=
  ⟨htoken, rfl, rfl⟩

/-- Calls in twin sessions are made with alike tokens. -/
lemma tokenIn (h : s.Twin s') (c : Call) : TokensAlike (c.tokenIn s) (c.tokenIn s') := by
  unfold Call.tokenIn
  split
  · exact h.token
  · exact .same none

end Session.Twin

namespace World.Twin

variable {w w' : World}

lemma refl (w : World) : w.Twin w := ⟨rfl, rfl, .refl _, rfl, rfl⟩

lemma walletStatus (h : w.Twin w') : w.walletStatus = w'.walletStatus := by
  rw [World.walletStatus, World.walletStatus, h.wallet, h.disk]

lemma withSession (h : w.Twin w') {s s' : Session} (hs : s.Twin s') :
    (w.withSession s).Twin (w'.withSession s') :=
  ⟨h.wallet, h.disk, hs, h.requests, h.pending⟩

/-- Twins stay twins by events that send the same but for the authorizations. -/
lemma advance (h : w.Twin w') {events events' : List Event} {replies replies' : List Service.Reply}
    {s s' : Session} (hs : s.Twin s') (hpending : replies.length = replies'.length)
    (hsent : (events.filterMap Event.request?).map Service.Request.anonymous =
      (events'.filterMap Event.request?).map Service.Request.anonymous) :
    (w.advance events replies s).Twin (w'.advance events' replies' s') := by
  refine ⟨h.wallet, h.disk, hs, ?_, hpending⟩
  have hbefore := h.requests
  simp only [World.requests, World.advance_log, List.filterMap_append, List.map_append] at hbefore ⊢
  rw [hbefore, hsent]

end World.Twin

/-! ### Lockstep -/

namespace Act

variable {α β : Type}

/-- Two ways to end are alike: the results stand in a relation, the worlds are twins, and the replies left over
are alike for further calls. -/
structure Ends (r : α → α → Prop) (calls : List Call) (e e' : Option α × World) : Prop where
  result : Option.Rel r e.1 e'.1
  world : e.2.Twin e'.2
  replies : ScriptsAlike calls e.2.replies e'.2.replies

section

variable {r : α → α → Prop} {calls : List Call} {e e' : Option α × World} {v : World}

/-- If the one ends without a result, so does the other. -/
lemma Ends.of_none (h : Ends r calls (none, v) e') :
    ∃ v', e' = (none, v') ∧ v.Twin v' ∧ ScriptsAlike calls v.replies v'.replies := by
  obtain ⟨result', v'⟩ := e'
  obtain ⟨hresult, hworld, hreplies⟩ := h
  cases hresult with
  | none => exact ⟨v', rfl, hworld, hreplies⟩

/-- If the one ends with a result, the other ends with one that is related to it. -/
lemma Ends.of_some {a : α} (h : Ends r calls (some a, v) e') :
    ∃ b v', e' = (some b, v') ∧ r a b ∧ v.Twin v' ∧ ScriptsAlike calls v.replies v'.replies := by
  obtain ⟨result', v'⟩ := e'
  obtain ⟨hresult, hworld, hreplies⟩ := h
  cases hresult with
  | some hab => exact ⟨_, v', rfl, hab, hworld, hreplies⟩

lemma Ends.result_eq (h : Ends Eq calls e e') : e.1 = e'.1 := by
  match e with
  | (none, v) =>
    obtain ⟨v', rfl, -⟩ := h.of_none
    rfl
  | (some a, v) =>
    obtain ⟨b, v', rfl, hab, -⟩ := h.of_some
    rw [hab]

lemma Ends.mono {r' : α → α → Prop} (h : Ends r calls e e') (hr : ∀ a b, r a b → r' a b) :
    Ends r' calls e e' := by
  match e with
  | (none, v) =>
    obtain ⟨v', rfl, hworld, hreplies⟩ := h.of_none
    exact ⟨.none, hworld, hreplies⟩
  | (some a, v) =>
    obtain ⟨b, v', rfl, hab, hworld, hreplies⟩ := h.of_some
    exact ⟨.some (hr a b hab), hworld, hreplies⟩

end

/-- Two operations go in lockstep: in twin worlds, with replies that are alike for the calls of the first one,
they end alike. -/
structure Lockstep (r : α → α → Prop) (x y : Act α) : Prop where
  grows : ∀ context w, w.log <+: (x context w).2.log
  goes : ∀ {context w w' events calls}, (x context w).2.log = w.log ++ events → w.Twin w' →
    ScriptsAlike (arrivals events ++ calls) w.replies w'.replies →
    Ends r calls (x context w) (y context w')

/-- An operation is discreet: it goes in lockstep with itself, and the results are the same. -/
def Discreet (x : Act α) : Prop := x.Lockstep Eq x

namespace Lockstep

variable {r : α → α → Prop} {s : β → β → Prop} {x y : Act α} {f g : α → Act β}

lemma mono {r' : α → α → Prop} (h : x.Lockstep r y) (hr : ∀ a b, r a b → r' a b) : x.Lockstep r' y where
  grows := h.grows
  goes hlog htwin hscripts := (h.goes hlog htwin hscripts).mono hr

/-- What records nothing and makes no calls. -/
lemma of_quiet (hx : ∀ context w, (x context w).2.log = w.log)
    (h : ∀ context w w', w.Twin w' → Option.Rel r (x context w).1 (y context w').1 ∧
      (x context w).2.Twin (y context w').2 ∧
      (x context w).2.replies = w.replies ∧ (y context w').2.replies = w'.replies) :
    x.Lockstep r y where
  grows context w := hx context w ▸ List.prefix_refl _
  goes {context w w' events calls} hlog htwin hscripts := by
    obtain rfl : events = [] := by simpa [hx] using hlog
    obtain ⟨hresult, hworld, hreplies, hreplies'⟩ := h context w w' htwin
    exact ⟨hresult, hworld, by simpa [hreplies, hreplies'] using hscripts⟩

lemma pure {a b : α} (h : r a b) : (Pure.pure a : Act α).Lockstep r (Pure.pure b) :=
  of_quiet (fun _ _ => rfl) fun _ _ _ htwin => ⟨.some h, htwin, rfl, rfl⟩

lemma world : Act.world.Lockstep World.Twin Act.world :=
  of_quiet (fun _ _ => rfl) fun _ _ _ htwin => ⟨.some htwin, htwin, rfl, rfl⟩

lemma modifySession {f f' : Session → Session} (h : ∀ s s', s.Twin s' → (f s).Twin (f' s')) :
    (Act.modifySession f).Lockstep Eq (Act.modifySession f') :=
  of_quiet (fun _ _ => rfl) fun _ _ _ htwin =>
    ⟨.some rfl, htwin.withSession (h _ _ htwin.session), rfl, rfl⟩

/-- What goes in lockstep, one after the other. The events of the first part come first, and so do the replies
to its calls. -/
lemma bind (hr : ∀ a, r a a) (hx : x.Lockstep r y) (hf : ∀ a b, r a b → (f a).Lockstep s (g b)) :
    (x >>= f).Lockstep s (y >>= g) where
  grows context w := by
    have hgrows := hx.grows context w
    rw [run_bind]
    match hrun : x context w with
    | (none, v) => rwa [hrun] at hgrows
    | (some a, v) =>
      rw [hrun] at hgrows
      exact hgrows.trans ((hf a a (hr a)).grows context v)
  goes {context w w' events calls} hlog htwin hscripts := by
    rw [run_bind] at hlog ⊢
    rw [run_bind]
    match hrun : x context w with
    | (none, v) =>
      rw [hrun] at hlog
      have hends := hx.goes (by rw [hrun, hlog]) htwin hscripts
      rw [hrun] at hends
      obtain ⟨v', hrun', hworld, hreplies⟩ := hends.of_none
      rw [hrun']
      exact ⟨.none, hworld, hreplies⟩
    | (some a, v) =>
      rw [hrun] at hlog
      obtain ⟨es, hes⟩ := hx.grows context w
      rw [hrun] at hes
      obtain ⟨es', hes'⟩ := (hf a a (hr a)).grows context v
      have hall : w.log ++ (es ++ es') = w.log ++ events := by
        rw [← List.append_assoc, hes, hes', ← hlog]
      obtain rfl : es ++ es' = events := List.append_cancel_left hall
      -- For the first part the replies to the second one are still to come.
      rw [arrivals_append, List.append_assoc] at hscripts
      have hends := hx.goes (by rw [hrun, hes]) htwin hscripts
      rw [hrun] at hends
      obtain ⟨b, v', hrun', hab, hworld, hreplies⟩ := hends.of_some
      rw [hrun']
      exact (hf a b hab).goes hes'.symm hworld hreplies

/-- A call. -/
lemma call (c : Call) : (Act.call c).Lockstep c.OutcomesAlike (Act.call c) where
  grows context w := List.prefix_append _ _
  goes {context w w' events calls} hlog htwin hscripts := by
    rw [run_call] at hlog ⊢
    rw [run_call]
    obtain rfl := List.append_cancel_left hlog
    rw [arrivals_called] at hscripts
    obtain ⟨hrequest, houtcome, hrest⟩ :=
      Context.exchange_alike (htwin.session.tokenIn c) hscripts
    refine ⟨houtcome, htwin.advance htwin.session hrest.length_eq ?_, hrest⟩
    rw [Event.requests_called, Event.requests_called, ← Option.toList_map, ← Option.toList_map, hrequest]

end Lockstep

namespace Discreet

variable {x : Act α} {f : α → Act β}

lemma pure (a : α) : (Pure.pure a : Act α).Discreet := Lockstep.pure rfl

lemma bind (hx : x.Discreet) (hf : ∀ a, (f a).Discreet) : (x >>= f).Discreet :=
  Lockstep.bind (fun _ => rfl) hx (by rintro a _ rfl; exact hf a)

/-- What an operation reads of a world is the same in its twin. -/
lemma world_bind {f : World → Act β} (hf : ∀ w w', w.Twin w' → (f w).Lockstep Eq (f w')) :
    (Act.world >>= f).Discreet :=
  Lockstep.bind World.Twin.refl .world hf

lemma record_loginStarted (ready : Bool) : (Act.record (.loginStarted ready)).Discreet where
  grows context w := List.prefix_append _ _
  goes {context w w' events calls} hlog htwin hscripts := by
    obtain rfl := List.append_cancel_left hlog
    exact ⟨.some rfl, htwin.advance htwin.session htwin.pending rfl, hscripts⟩

lemma now : Act.now.Discreet :=
  Lockstep.of_quiet (fun _ _ => rfl) fun _ _ _ htwin => ⟨.some rfl, htwin, rfl, rfl⟩

lemma modifySession {f : Session → Session} (h : ∀ s s', s.Twin s' → (f s).Twin (f s')) :
    (Act.modifySession f).Discreet :=
  Lockstep.modifySession h

/-- A call that brings no tokens. -/
lemma call {c : Call} (hc : c ≠ .nonce) (hlogin : ∀ r, c ≠ .login r) : (Act.call c).Discreet :=
  (Lockstep.call c).mono fun _ _ h => h.eq hc hlogin

end Discreet

/-! ### Logging in -/

/-- An answer to a challenge does not depend on the token of the challenge. -/
lemma answer_congr {challenge challenge' : Challenge} (h : challenge.nonce = challenge'.nonce)
    (key : PrivateKey) : answer key challenge = answer key challenge' := by
  have hsame : Service.LoginRequest.answering key challenge = .answering key challenge' := by
    simp only [Service.LoginRequest.answering, h]
  unfold answer
  rw [hsame]
  refine bind_congr fun outcome => ?_
  match outcome with
  | .ok grant => rfl
  | .error e => cases e <;> rfl

/-- What is done when the service has let the node in, with a token. -/
def letIn (token : String) : Act (Except Error Unit) := do
  let time ← now
  modifySession (·.admitted token time)
  return .ok ()

lemma lockstep_letIn {token token' : String} (h : TokensAlike (some token) (some token')) :
    (letIn token).Lockstep Eq (letIn token') := by
  refine .bind (fun _ => rfl) Discreet.now ?_
  rintro time _ rfl
  refine .bind (fun _ => rfl) (.modifySession fun s s' _ => .admitted h time) ?_
  rintro _ _ rfl
  exact .pure rfl

lemma discreet_answer (key : PrivateKey) (challenge : Challenge) : (answer key challenge).Discreet := by
  refine Lockstep.bind .same (.call _) fun outcome outcome' h => ?_
  cases h with
  | tokens grant grant' h => exact lockstep_letIn (.legal _ _ h.1 h.2)
  | same =>
    match outcome with
    | .ok grant => exact lockstep_letIn (.same _)
    | .error e =>
      split
      · rename_i hok
        cases hok
      · exact Discreet.bind (.modifySession fun _ _ h => h.withStatus _) fun _ => .pure _
      · exact Discreet.bind (.modifySession fun _ _ h => h.withStatus _) fun _ => .pure _
      · exact Discreet.bind (.modifySession fun _ _ h => h.withDoubt) fun _ => .pure _

lemma discreet_logInWith (key : PrivateKey) : (logInWith key).Discreet := by
  have hanswer {challenge challenge' : Challenge} (hnonce : challenge.nonce = challenge'.nonce)
      (htoken : TokensAlike (some challenge.token) (some challenge'.token)) :
      (modifySession (·.withToken challenge.token) >>= fun _ => answer key challenge).Lockstep Eq
        (modifySession (·.withToken challenge'.token) >>= fun _ => answer key challenge') := by
    rw [answer_congr hnonce]
    refine .bind (fun _ => rfl) (.modifySession fun _ _ h => h.withToken htoken) ?_
    rintro _ _ rfl
    exact discreet_answer key challenge'
  refine Lockstep.bind .same (.call .nonce) fun outcome outcome' h => ?_
  cases h with
  | tokens challenge challenge' h => exact hanswer h.1 (.legal _ _ h.2.1 h.2.2)
  | same =>
    match outcome with
    | .ok challenge => exact hanswer rfl (.same _)
    | .error e => exact Discreet.bind (.modifySession fun _ _ h => h.withDoubt) fun _ => .pure _

/-- An attempt to log in is discreet. -/
theorem discreet_logIn : logIn.Discreet := by
  refine .world_bind fun w w' hw => ?_
  rw [hw.wallet]
  refine Discreet.bind (.record_loginStarted _) fun _ => ?_
  cases w'.wallet.readyKey? with
  | none => exact Discreet.bind (.modifySession fun _ _ h => h.withStatus _) fun _ => .pure _
  | some key => exact discreet_logInWith key

/-! ### The other operations of a session -/

lemma discreet_registrationStatus : registrationStatus.Discreet := by
  have hread (error? : Option Error) :
      (world >>= fun w => Pure.pure (w.session.status, error?)).Discreet := by
    refine .world_bind fun w w' hw => ?_
    rw [hw.session.status]
    exact .pure rfl
  refine .world_bind fun w w' hw => ?_
  rw [hw.session.status]
  dsimp only
  split
  · exact .pure rfl
  · refine Discreet.bind discreet_logIn fun login => ?_
    match login with
    | .ok () => exact hread none
    | .error e => exact hread (some e)

lemma discreet_request {c : Call} (hc : c.isModule) : (request c).Discreet := by
  have hcall : (call c).Discreet := by
    refine .call ?_ fun r => ?_
    · rintro rfl
      cases hc
    · rintro rfl
      cases hc
  refine .bind hcall fun reply => ?_
  match reply with
  | .ok data => exact .pure _
  | .error e =>
    dsimp only
    split
    · refine .bind discreet_logIn fun login => ?_
      match login with
      | .ok () => exact hcall
      | .error e' => exact .pure _
    · exact .pure _

lemma discreet_registerKey (key : PrivateKey) (email : String) : (registerKey key email).Discreet := by
  refine .bind (.call (by simp) (by simp)) fun reply => ?_
  match reply with
  | .ok data => exact .bind discreet_logIn fun _ => .pure _
  | .error e => exact .bind (.modifySession fun _ _ h => h.withDoubt) fun _ => .pure _

lemma discreet_register (text : String) : (register text).Discreet := by
  unfold register
  split
  · exact .pure _
  · refine .world_bind fun w w' hw => ?_
    rw [hw.wallet]
    cases w'.wallet.key with
    | none => exact .pure rfl
    | some key => exact discreet_registerKey key _

lemma discreet_requireWallet : requireWallet.Discreet := by
  refine .world_bind fun w w' hw => ?_
  rw [hw.walletStatus]
  exact .pure rfl

lemma discreet_requireRegistered : requireRegistered.Discreet := by
  refine .bind discreet_registrationStatus fun (status, error?) => ?_
  cases status <;> exact .pure _

lemma discreet_poll (times : Nat) : (poll times).Discreet := by
  induction times with
  | zero => exact .pure _
  | succ times ih =>
    refine .bind discreet_registrationStatus fun (status, error?) => ?_
    dsimp only
    split
    · exact .pure _
    · exact ih

/-- How often the status is looked at depends on how many replies there are, and not on what they say. -/
lemma discreet_wait (moreLooks? : Option Nat) : (wait moreLooks?).Discreet := by
  refine .world_bind fun w w' hw => ?_
  rw [hw.pending]
  refine Discreet.bind (discreet_poll _) fun unregistered => ?_
  cases unregistered <;> exact .pure _

end Act

end OperatorDaemon
