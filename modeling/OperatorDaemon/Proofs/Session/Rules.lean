import OperatorDaemon.Daemon.Turn
import OperatorDaemon.Proofs.Service.Exchange

/-!
# How the operations of a session go

An operation advances the world: it records events, uses up replies and changes the session. `LogInRule`
lists the ways in which an attempt to log in can go, with the world that each of them leaves, and
`LogInRule.of_logIn` says that there are no others. `RequestRule` and `RegisterRule` do the same for a call
that may be made again and for a registration.
-/

namespace OperatorDaemon

open Service (Call Challenge Error Exchange Grant LoginRequest Reply)

/-! ### Advancing the world -/

/-- The world after further events, with other replies to come and another session. -/
def World.advance (w : World) (events : List Event) (replies : List Reply) (session : Session) :
    World :=
  { w with session, replies, log := w.log ++ events }

namespace World

variable (w : World) (events : List Event) (replies : List Reply) (session : Session)

@[simp] lemma advance_session : (w.advance events replies session).session = session := rfl

@[simp] lemma advance_replies : (w.advance events replies session).replies = replies := rfl

@[simp] lemma advance_log : (w.advance events replies session).log = w.log ++ events := rfl

@[simp] lemma advance_wallet : (w.advance events replies session).wallet = w.wallet := rfl

@[simp] lemma advance_disk : (w.advance events replies session).disk = w.disk := rfl

@[simp] lemma advance_advance (events' : List Event) (replies' : List Reply) (session' : Session) :
    (w.advance events replies session).advance events' replies' session' =
      w.advance (events ++ events') replies' session' := by
  simp [advance]

@[simp] lemma record_eq (e : Event) : w.record e = w.advance [e] w.replies w.session := rfl

@[simp] lemma withSession_eq : w.withSession session = w.advance [] w.replies session := by
  simp [advance, withSession]

end World

namespace Act

lemma run_call (c : Call) (context : Context) (w : World) :
    call c context w =
      ((context.exchange c (c.tokenIn w.session) w.replies).outcome,
        w.advance [.called c (c.tokenIn w.session) (context.exchange c (c.tokenIn w.session) w.replies)]
          (context.exchange c (c.tokenIn w.session) w.replies).rest w.session) := rfl

/-- What is done with the result of an operation adds nothing to its effect if it has none itself. -/
lemma snd_bind_of_idle {α β : Type} {x : Act α} {f : α → Act β} {context : Context} {w : World}
    (hf : ∀ a w, (f a context w).2 = w) : ((x >>= f) context w).2 = (x context w).2 := by
  rw [run_bind]
  match hrun : x context w with
  | (none, w') => rfl
  | (some a, w') => exact hf a w'

end Act

/-! ### Logging in -/

@[simp] lemma Wallet.readyKey?_load (wallet : Wallet) (key : PrivateKey) :
    (wallet.load key).readyKey? = some key := by
  simp [readyKey?, isReady, status, Status.isReady, load, address]

lemma Wallet.readyKey?_eq_some {wallet : Wallet} {key : PrivateKey}
    (h : wallet.readyKey? = some key) : wallet.isReady ∧ wallet.address = key.address := by
  unfold readyKey? at h
  split_ifs at h with hready
  exact ⟨hready, by simp [address, h]⟩

/-- The key that a wallet is ready with is loaded, and the node address is its address. -/
lemma Wallet.key_of_readyKey? {wallet : Wallet} {key : PrivateKey}
    (h : wallet.readyKey? = some key) :
    wallet.key = some key ∧ wallet.nodeAddress = some key.address := by
  obtain ⟨hready, haddress⟩ := readyKey?_eq_some h
  have hkey : wallet.key = some key := by rwa [readyKey?, if_pos hready] at h
  refine ⟨hkey, ?_⟩
  cases hnode : wallet.nodeAddress with
  | none => simp [isReady, status, Status.isReady, hnode] at hready
  | some address => simp_all [isReady, status, Status.isReady]

/-- A challenge has come for a key, and has been answered. -/
structure Challenged (context : Context) (w : World) (key : PrivateKey) (challenge : Challenge)
    (n : Exchange .nonce) (l : Exchange (.login (.answering key challenge))) : Prop where
  ready : w.wallet.readyKey? = some key
  asked : n = context.exchange .nonce none w.replies
  came : n.outcome = some (.ok challenge)
  answered : l = context.exchange (.login (.answering key challenge)) (some challenge.token) n.rest

/-- What is recorded of an attempt to log in that gets as far as the answer to the challenge. -/
def loginEvents {r : LoginRequest} (n : Exchange .nonce) (token : String)
    (l : Exchange (.login r)) : List Event :=
  [.loginStarted true, .called .nonce none n, .called (.login r) (some token) l]

/-- The ways in which an attempt to log in can go, with its result and the world that it leaves. -/
inductive LogInRule (context : Context) (w : World) :
    Option (Except Error Unit) → World → Prop where
  /-- The wallet is not ready. -/
  | unready (h : w.wallet.readyKey? = none) :
      LogInRule context w (some (.error .walletNotReady))
        (w.advance [.loginStarted false] w.replies (w.session.withStatus .noWallet))
  /-- It is dropped while it waits for the challenge. -/
  | challengeDropped (key : PrivateKey) (n : Exchange .nonce)
      (hkey : w.wallet.readyKey? = some key) (hn : n = context.exchange .nonce none w.replies)
      (h : n.outcome = none) :
      LogInRule context w none
        (w.advance [.loginStarted true, .called .nonce none n] n.rest w.session)
  /-- The challenge does not come. -/
  | challengeRefused (key : PrivateKey) (n : Exchange .nonce) (e : Error)
      (hkey : w.wallet.readyKey? = some key) (hn : n = context.exchange .nonce none w.replies)
      (h : n.outcome = some (.error e)) :
      LogInRule context w (some (.error (.during "getting nonce for login" e)))
        (w.advance [.loginStarted true, .called .nonce none n] n.rest w.session.withDoubt)
  /-- It is dropped while it waits for what the service says to the answer. -/
  | answerDropped (key : PrivateKey) (challenge : Challenge) (n : Exchange .nonce)
      (l : Exchange (.login (.answering key challenge)))
      (h : Challenged context w key challenge n l) (hl : l.outcome = none) :
      LogInRule context w none
        (w.advance (loginEvents n challenge.token l) l.rest (w.session.withToken challenge.token))
  /-- The service lets the node in. -/
  | admitted (key : PrivateKey) (challenge : Challenge) (n : Exchange .nonce)
      (l : Exchange (.login (.answering key challenge))) (grant : Grant)
      (h : Challenged context w key challenge n l) (hl : l.outcome = some (.ok grant)) :
      LogInRule context w (some (.ok ()))
        (w.advance (loginEvents n challenge.token l) l.rest
          ((w.session.withToken challenge.token).admitted grant.token context.now))
  /-- The service does not know the node. -/
  | unregistered (key : PrivateKey) (challenge : Challenge) (n : Exchange .nonce)
      (l : Exchange (.login (.answering key challenge)))
      (h : Challenged context w key challenge n l)
      (hl : l.outcome = some (.error .unregisteredNode)) :
      LogInRule context w (some (.ok ()))
        (w.advance (loginEvents n challenge.token l) l.rest
          ((w.session.withToken challenge.token).withStatus .unregistered))
  /-- The service finds that the wallet is not loaded. -/
  | walletMissing (key : PrivateKey) (challenge : Challenge) (n : Exchange .nonce)
      (l : Exchange (.login (.answering key challenge)))
      (h : Challenged context w key challenge n l)
      (hl : l.outcome = some (.error .walletNotLoaded)) :
      LogInRule context w (some (.error .walletNotLoaded))
        (w.advance (loginEvents n challenge.token l) l.rest
          ((w.session.withToken challenge.token).withStatus .noWallet))
  /-- The answer fails otherwise. -/
  | answerRefused (key : PrivateKey) (challenge : Challenge) (n : Exchange .nonce)
      (l : Exchange (.login (.answering key challenge))) (e : Error)
      (h : Challenged context w key challenge n l) (hl : l.outcome = some (.error e))
      (hu : e ≠ .unregisteredNode) (hw : e ≠ .walletNotLoaded) :
      LogInRule context w (some (.error (.during "logging in" e)))
        (w.advance (loginEvents n challenge.token l) l.rest
          (w.session.withToken challenge.token).withDoubt)

namespace LogInRule

variable {context : Context} {w : World} {key : PrivateKey}

lemma of_answer {challenge : Challenge} {n : Exchange .nonce}
    {l : Exchange (.login (.answering key challenge))} (h : Challenged context w key challenge n l)
    {w' : World} (hw' : w' = w.advance [.loginStarted true, .called .nonce none n] n.rest
      (w.session.withToken challenge.token)) :
    LogInRule context w (Act.answer key challenge context w').1
      (Act.answer key challenge context w').2 := by
  have htoken : Call.tokenIn (.login (.answering key challenge)) w'.session =
      some challenge.token := by
    rw [Call.tokenIn_of_usesSession rfl, hw']; rfl
  have hl : context.exchange (.login (.answering key challenge))
      (Call.tokenIn (.login (.answering key challenge)) w'.session) w'.replies = l := by
    rw [htoken, hw', h.answered]; rfl
  rw [Act.answer, Act.run_bind, Act.run_call, hl, htoken]
  subst hw'
  match hreply : l.outcome with
  | none =>
    simpa [loginEvents] using answerDropped key challenge n l h hreply
  | some (.ok grant) =>
    simpa [loginEvents, Act.run_bind] using admitted key challenge n l grant h hreply
  | some (.error e) =>
    by_cases hu : e = .unregisteredNode
    · subst hu
      simpa [loginEvents, Act.run_bind] using unregistered key challenge n l h hreply
    · by_cases hw : e = .walletNotLoaded
      · subst hw
        simpa [loginEvents, Act.run_bind] using walletMissing key challenge n l h hreply
      · simpa [loginEvents, Act.run_bind] using answerRefused key challenge n l e h hreply hu hw

lemma of_logInWith (hkey : w.wallet.readyKey? = some key) {w' : World}
    (hw' : w' = w.advance [.loginStarted true] w.replies w.session) :
    LogInRule context w (Act.logInWith key context w').1 (Act.logInWith key context w').2 := by
  have hn : context.exchange .nonce none w.replies =
      context.exchange .nonce (Call.tokenIn .nonce w'.session) w'.replies := by
    rw [hw']; rfl
  rw [Act.logInWith, Act.run_bind, Act.run_call, ← hn]
  subst hw'
  match hreply : (context.exchange .nonce none w.replies).outcome with
  | none =>
    simpa using challengeDropped key _ hkey rfl hreply
  | some (.error e) =>
    simpa [Act.run_bind] using challengeRefused key _ e hkey rfl hreply
  | some (.ok challenge) =>
    simp only [Act.run_bind, Act.run_modifySession]
    exact of_answer ⟨hkey, rfl, hreply, rfl⟩ (by simp)

/-- There are no other ways to log in. -/
theorem of_logIn {result : Option (Except Error Unit)} {w' : World}
    (h : Act.logIn context w = (result, w')) : LogInRule context w result w' := by
  suffices hrule : LogInRule context w (Act.logIn context w).1 (Act.logIn context w).2 by
    rwa [h] at hrule
  cases hkey : w.wallet.readyKey? with
  | none => simpa [Act.logIn, Act.run_bind, hkey] using unready hkey
  | some key =>
    have hrun : Act.logIn context w =
        Act.logInWith key context (w.advance [.loginStarted true] w.replies w.session) := by
      simp [Act.logIn, Act.run_bind, hkey]
    rw [hrun]
    exact of_logInWith hkey rfl

end LogInRule

/-- The service lets the node in. -/
lemma Act.logIn_of_granted {context : Context} {w : World} {key : PrivateKey} {challenge : Challenge}
    {n : Exchange .nonce} {l : Exchange (.login (.answering key challenge))}
    (h : Challenged context w key challenge n l) {grant : Grant}
    (hl : l.outcome = some (.ok grant)) :
    Act.logIn context w = (some (.ok ()),
      w.advance (loginEvents n challenge.token l) l.rest
        ((w.session.withToken challenge.token).admitted grant.token context.now)) := by
  obtain ⟨hkey, rfl, hn, rfl⟩ := h
  simp [Act.logIn, Act.logInWith, Act.answer, Act.run_bind, Act.run_call, Call.tokenIn,
    Call.usesSession, Session.withToken, loginEvents, hkey, hn, hl]

/-- The ways in which an attempt to log in fails, with the events and the error. -/
inductive LogInFailure : List Event → Error → Prop where
  /-- The wallet is not ready. -/
  | unready : LogInFailure [.loginStarted false] .walletNotReady
  /-- The challenge does not come. -/
  | challengeRefused (n : Exchange .nonce) (e : Error) (h : n.outcome = some (.error e)) :
      LogInFailure [.loginStarted true, .called .nonce none n] (.during "getting nonce for login" e)
  /-- The service finds that the wallet is not loaded. -/
  | walletMissing (n : Exchange .nonce) (challenge : Challenge) (r : LoginRequest)
      (l : Exchange (.login r)) (hn : n.outcome = some (.ok challenge))
      (hl : l.outcome = some (.error .walletNotLoaded)) :
      LogInFailure (loginEvents n challenge.token l) .walletNotLoaded
  /-- The answer fails otherwise. -/
  | answerRefused (n : Exchange .nonce) (challenge : Challenge) (r : LoginRequest)
      (l : Exchange (.login r)) (e : Error) (hn : n.outcome = some (.ok challenge))
      (hl : l.outcome = some (.error e)) (hu : e ≠ .unregisteredNode) (hw : e ≠ .walletNotLoaded) :
      LogInFailure (loginEvents n challenge.token l) (.during "logging in" e)

/-- An attempt to log in has been completed: the service has let the node in or does not know it. -/
structure LogInSuccess (n : Exchange .nonce) (challenge : Challenge) {r : LoginRequest}
    (l : Exchange (.login r)) : Prop where
  came : n.outcome = some (.ok challenge)
  judged : (∃ grant, l.outcome = some (.ok grant)) ∨ l.outcome = some (.error .unregisteredNode)

namespace LogInRule

variable {context : Context} {w w' : World}

lemma failure {e : Error} (h : LogInRule context w (some (.error e)) w') :
    ∃ events, w'.log = w.log ++ events ∧ LogInFailure events e := by
  cases h with
  | unready h => exact ⟨_, rfl, .unready⟩
  | challengeRefused key n e hkey hn h => exact ⟨_, rfl, .challengeRefused n e h⟩
  | walletMissing key challenge n l h hl => exact ⟨_, rfl, .walletMissing n challenge _ l h.came hl⟩
  | answerRefused key challenge n l e h hl hu hw =>
    exact ⟨_, rfl, .answerRefused n challenge _ l e h.came hl hu hw⟩

lemma success (h : LogInRule context w (some (.ok ())) w') :
    ∃ (n : Exchange .nonce) (challenge : Challenge) (r : LoginRequest) (l : Exchange (.login r)),
      w'.log = w.log ++ loginEvents n challenge.token l ∧ LogInSuccess n challenge l := by
  cases h with
  | admitted key challenge n l grant h hl =>
    exact ⟨n, challenge, _, l, rfl, h.came, .inl ⟨grant, hl⟩⟩
  | unregistered key challenge n l h hl => exact ⟨n, challenge, _, l, rfl, h.came, .inr hl⟩

end LogInRule

/-! ### Looking up the registration status -/

/-- The ways in which the registration status can be looked up. -/
inductive LookUpRule (context : Context) (w : World) :
    Option (Status × Option Error) → World → Prop where
  /-- The status is known. -/
  | known (h : w.session.status.isKnown) :
      LookUpRule context w (some (w.session.status, none)) w
  /-- The status is not known, and the attempt to log in is dropped. -/
  | dropped (w' : World) (h : w.session.status.isKnown = false)
      (hlogin : LogInRule context w none w') : LookUpRule context w none w'
  /-- The status is not known, and the login is completed. -/
  | completed (w' : World) (h : w.session.status.isKnown = false)
      (hlogin : LogInRule context w (some (.ok ())) w') :
      LookUpRule context w (some (w'.session.status, none)) w'
  /-- The status is not known, and the attempt to log in fails. -/
  | failed (e : Error) (w' : World) (h : w.session.status.isKnown = false)
      (hlogin : LogInRule context w (some (.error e)) w') :
      LookUpRule context w (some (w'.session.status, some e)) w'

namespace LookUpRule

variable {context : Context} {w w' : World}

/-- There are no other ways to look up the status. -/
theorem of_registrationStatus {result : Option (Status × Option Error)}
    (h : Act.registrationStatus context w = (result, w')) : LookUpRule context w result w' := by
  suffices hrule : LookUpRule context w (Act.registrationStatus context w).1
      (Act.registrationStatus context w).2 by
    rwa [h] at hrule
  rw [Act.registrationStatus, Act.run_bind, Act.run_world]
  dsimp only
  split_ifs with hknown
  · exact known hknown
  · rw [Bool.not_eq_true] at hknown
    rw [Act.run_bind]
    match hrun : Act.logIn context w with
    | (none, w') => exact dropped w' hknown (.of_logIn hrun)
    | (some (.ok ()), w') => exact completed w' hknown (.of_logIn hrun)
    | (some (.error e), w') => exact failed e w' hknown (.of_logIn hrun)

lemma status_eq {status : Status} {error? : Option Error}
    (h : LookUpRule context w (some (status, error?)) w') : w'.session.status = status := by
  generalize hresult : some (status, error?) = result at h
  cases h with
  | dropped w' h hlogin => cases hresult
  | known | completed | failed =>
    cases hresult
    rfl

/-- Whether the status is known afterwards tells whether there was an error. -/
lemma isKnown_eq {status : Status} {error? : Option Error}
    (h : LookUpRule context w (some (status, error?)) w') : status.isKnown = error?.isNone := by
  generalize hresult : some (status, error?) = result at h
  cases h with
  | known hknown =>
    cases hresult
    exact hknown
  | dropped w' hknown hlogin => cases hresult
  | completed w' hknown hlogin =>
    cases hresult
    cases hlogin <;> rfl
  | failed e w' hknown hlogin =>
    cases hresult
    cases hlogin <;> simp [Session.withStatus, Session.withDoubt, Session.withToken, hknown] <;> rfl

end LookUpRule

namespace Act

variable {context : Context} {w : World}

lemma registrationStatus_of_isKnown (h : w.session.status.isKnown) :
    registrationStatus context w = (some (w.session.status, none), w) := by
  simp [registrationStatus, run_bind, h]

lemma registrationStatus_of_unready (h : w.session.status.isKnown = false)
    (hwallet : w.wallet.isReady = false) :
    registrationStatus context w = (some (.noWallet, some .walletNotReady),
      w.advance [.loginStarted false] w.replies (w.session.withStatus .noWallet)) := by
  have hkey : w.wallet.readyKey? = none := by simp [Wallet.readyKey?, hwallet]
  simp [registrationStatus, logIn, run_bind, h, hkey, Session.withStatus]

end Act

/-! ### Calls that may be made again -/

/-- The ways in which a call that may be made again can go. -/
inductive RequestRule (c : Call) (context : Context) (w : World) :
    Option (Except Error c.Data) → World → Prop where
  /-- The session is not found to be invalid. -/
  | once (x : Exchange c) (hx : x = context.exchange c (c.tokenIn w.session) w.replies)
      (h : ∀ e, x.outcome = some (.error e) → e.isInvalidSession = false) :
      RequestRule c context w x.outcome
        (w.advance [.called c (c.tokenIn w.session) x] x.rest w.session)
  /-- The session is invalid, and the attempt to log in is dropped. -/
  | loginDropped (x : Exchange c) (e : Error) (w' : World)
      (hx : x = context.exchange c (c.tokenIn w.session) w.replies)
      (h : x.outcome = some (.error e)) (he : e.isInvalidSession)
      (hlogin : LogInRule context (w.advance [.called c (c.tokenIn w.session) x] x.rest w.session)
        none w') :
      RequestRule c context w none w'
  /-- The session is invalid, and the attempt to log in fails. -/
  | loginFailed (x : Exchange c) (e e' : Error) (w' : World)
      (hx : x = context.exchange c (c.tokenIn w.session) w.replies)
      (h : x.outcome = some (.error e)) (he : e.isInvalidSession)
      (hlogin : LogInRule context (w.advance [.called c (c.tokenIn w.session) x] x.rest w.session)
        (some (.error e')) w') :
      RequestRule c context w (some (.error e')) w'
  /-- The session is invalid, and the call is made again after the login. -/
  | again (x x' : Exchange c) (e : Error) (w' : World)
      (hx : x = context.exchange c (c.tokenIn w.session) w.replies)
      (h : x.outcome = some (.error e)) (he : e.isInvalidSession)
      (hlogin : LogInRule context (w.advance [.called c (c.tokenIn w.session) x] x.rest w.session)
        (some (.ok ())) w')
      (hx' : x' = context.exchange c (c.tokenIn w'.session) w'.replies) :
      RequestRule c context w x'.outcome
        (w'.advance [.called c (c.tokenIn w'.session) x'] x'.rest w'.session)

/-- There are no other ways to make a call. -/
theorem RequestRule.of_request {c : Call} {context : Context} {w : World}
    {result : Option (Except Error c.Data)} {w' : World}
    (h : Act.request c context w = (result, w')) : RequestRule c context w result w' := by
  suffices hrule : RequestRule c context w (Act.request c context w).1
      (Act.request c context w).2 by
    rwa [h] at hrule
  rw [Act.request, Act.run_bind, Act.run_call]
  generalize hx : context.exchange c (c.tokenIn w.session) w.replies = x
  have hquiet (h : ∀ e, x.outcome = some (.error e) → e.isInvalidSession = false) :=
    RequestRule.once x hx.symm h
  match hreply : x.outcome with
  | none => simpa [hreply] using hquiet
  | some (.ok data) => simpa [hreply] using hquiet
  | some (.error e) =>
    cases he : e.isInvalidSession with
    | false => simpa [hreply, he] using hquiet
    | true =>
      simp only [he, if_true, Act.run_bind]
      match hrun : Act.logIn context
          (w.advance [.called c (c.tokenIn w.session) x] x.rest w.session) with
      | (none, w') => exact .loginDropped x e w' hx.symm hreply he (.of_logIn hrun)
      | (some (.error e'), w') => exact .loginFailed x e e' w' hx.symm hreply he (.of_logIn hrun)
      | (some (.ok ()), w') => exact .again x _ e w' hx.symm hreply he (.of_logIn hrun) rfl

/-! ### Registering -/

/-- The ways in which the registration of a key can go. -/
inductive RegisterRule (key : PrivateKey) (email : String) (context : Context) (w : World) :
    Option (Except Error Registration) → World → Prop where
  /-- It is dropped while it waits for the reply. -/
  | dropped (x : Exchange (.nodeAddress (.signed key email)))
      (hx : x = context.exchange _ w.session.token w.replies) (h : x.outcome = none) :
      RegisterRule key email context w none
        (w.advance [.called _ w.session.token x] x.rest w.session)
  /-- It fails. -/
  | refused (x : Exchange (.nodeAddress (.signed key email))) (e : Error)
      (hx : x = context.exchange _ w.session.token w.replies) (h : x.outcome = some (.error e)) :
      RegisterRule key email context w (some (Registration.ofRefusal e))
        (w.advance [.called _ w.session.token x] x.rest w.session.withDoubt)
  /-- It is accepted, and an attempt to log in follows. -/
  | accepted (x : Exchange (.nodeAddress (.signed key email))) (data : Service.NoData)
      (login : Option (Except Error Unit)) (w' : World)
      (hx : x = context.exchange _ w.session.token w.replies) (h : x.outcome = some (.ok data))
      (hlogin : LogInRule context (w.advance [.called _ w.session.token x] x.rest w.session)
        login w') :
      RegisterRule key email context w (login.map fun _ => .ok .success) w'

/-- There are no other ways to register a key. -/
theorem RegisterRule.of_registerKey {key : PrivateKey} {email : String} {context : Context}
    {w : World} {result : Option (Except Error Registration)} {w' : World}
    (h : Act.registerKey key email context w = (result, w')) :
    RegisterRule key email context w result w' := by
  suffices hrule : RegisterRule key email context w (Act.registerKey key email context w).1
      (Act.registerKey key email context w).2 by
    rwa [h] at hrule
  rw [Act.registerKey, Act.run_bind, Act.run_call, Call.tokenIn_of_usesSession rfl]
  generalize hx : context.exchange (.nodeAddress (.signed key email)) w.session.token w.replies = x
  match hreply : x.outcome with
  | none => exact .dropped x hx.symm hreply
  | some (.error e) => simpa [Act.run_bind] using RegisterRule.refused x e hx.symm hreply
  | some (.ok data) =>
    rcases hrun : Act.logIn context (w.advance [.called _ w.session.token x] x.rest w.session)
      with ⟨login, w'⟩
    simpa [hrun] using RegisterRule.accepted x data login w' hx.symm hreply (.of_logIn hrun)

/-- A registration that comes to an outcome is that of the loaded key under an email address. -/
lemma RegisterRule.of_register {text : String} {context : Context} {w w' : World} {r : Registration}
    (h : Act.register text context w = (some (.ok r), w')) :
    ∃ key email, RegisterRule key email context w (some (.ok r)) w' := by
  unfold Act.register at h
  match hemail : Email.normalize? text with
  | none => simp [hemail] at h
  | some email =>
    match hkey : w.wallet.key with
    | none => simp [hemail, Act.run_bind, hkey] at h
    | some key =>
      simp only [hemail, Act.run_bind, Act.run_world, hkey] at h
      exact ⟨key, email, .of_registerKey h⟩

end OperatorDaemon
