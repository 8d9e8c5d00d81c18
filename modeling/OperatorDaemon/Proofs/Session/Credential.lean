import OperatorDaemon.Proofs.Session.Order

/-!
# Every request bears the token that came last

A challenge and a grant bring a token. A call for a challenge bears no authorization; any other bears the
authorization by the token that was brought last, in whatever operation that was, or none if there has been
no token yet.
-/

namespace OperatorDaemon

open Daemon (Turn)
open Service (Call Challenge Client Exchange LoginRequest Reply Request bearerAuthorization)

/-! ### Tokens -/

/-- The token that an event brings. -/
def Event.token? : Event → Option String
  | .loginStarted _ => none
  | .called .nonce _ x =>
    match x.outcome with
    | some (.ok challenge) => some challenge.token
    | some (.error _) | none => none
  | .called (.login _) _ x =>
    match x.outcome with
    | some (.ok grant) => some grant.token
    | some (.error _) | none => none
  | .called _ _ _ => none

/-- The token that the events of a log have brought last. -/
def lastToken (log : List Event) : Option String := (log.filterMap Event.token?).getLast?

/-- The token after the answer to a challenge: that of the challenge stays unless the service grants
another. -/
def Service.Exchange.tokenOr {r : LoginRequest} (l : Exchange (.login r)) (provisional : String) :
    String :=
  match l.outcome with
  | some (.ok grant) => grant.token
  | some (.error _) | none => provisional

@[simp] lemma lastToken_nil : lastToken [] = none := rfl

@[simp] lemma lastToken_append (l l' : List Event) :
    lastToken (l ++ l') = (lastToken l').or (lastToken l) := by
  simp [lastToken, List.getLast?_append]

@[simp] lemma lastToken_singleton (e : Event) : lastToken [e] = e.token? := by
  cases h : e.token? <;> simp [lastToken, h]

lemma lastToken_cons (e : Event) (l : List Event) :
    lastToken (e :: l) = (lastToken l).or e.token? := by
  rw [← List.singleton_append, lastToken_append, lastToken_singleton]

@[simp] lemma Event.token?_loginStarted (ready : Bool) : (loginStarted ready).token? = none := rfl

lemma Event.token?_nonce {n : Exchange .nonce} {challenge : Challenge}
    (h : n.outcome = some (.ok challenge)) (token : Option String) :
    (called .nonce token n).token? = some challenge.token := by
  simp [token?, h]

lemma Event.token?_login {r : LoginRequest} (l : Exchange (.login r)) (token : Option String)
    (provisional : String) :
    (called (.login r) token l).token?.getD provisional = l.tokenOr provisional := by
  match h : l.outcome with
  | none => simp [token?, Exchange.tokenOr, h]
  | some (.ok grant) => simp [token?, Exchange.tokenOr, h]
  | some (.error e) => simp [token?, Exchange.tokenOr, h]

lemma Event.token?_of_isModule {c : Call} (hc : c.isModule) (token : Option String) (x : Exchange c) :
    (called c token x).token? = none := by
  cases c <;> first | rfl | cases hc

lemma lastToken_loginEvents {n : Exchange .nonce} {challenge : Challenge}
    (h : n.outcome = some (.ok challenge)) {r : LoginRequest} (l : Exchange (.login r)) :
    lastToken (loginEvents n challenge.token l) = some (l.tokenOr challenge.token) := by
  simp only [loginEvents, lastToken_cons, lastToken_nil, Event.token?_nonce h,
    Event.token?_loginStarted, Option.none_or, Option.or_none, Option.or_some, Event.token?_login]

@[simp] lemma Session.withDoubt_token (s : Session) : s.withDoubt.token = s.token := by
  unfold withDoubt
  split <;> rfl

/-! ### Steps -/

/-- Whether a call is made with the token that came last, and its request bears the authorization by it. -/
def Event.Bears (before : List Event) : Event → Prop
  | .loginStarted _ => True
  | .called c token x =>
    token = (if c.usesSession then lastToken before else none) ∧
      ∀ q, x.request = some q → q.authorization = token.map bearerAuthorization

/-- The session holds the token that came last, and every call was made with the one that had come last
by then, if the URL of the service names no user. -/
structure Faithful (client : Client) (p : Past) : Prop where
  holds : p.session.token = lastToken p.log
  bears : client.base.hasUserInfo = false → EachAfter Event.Bears p.log

variable {context : Context} {w : World}

lemma Event.bears_exchange (hbase : context.client.base.hasUserInfo = false) {c : Call}
    {token : Option String} {replies : List Reply} {x : Exchange c}
    (hx : x = context.exchange c token replies) {before : List Event}
    (htoken : token = if c.usesSession then lastToken before else none) :
    Event.Bears before (.called c token x) := by
  refine ⟨htoken, fun q hq => ?_⟩
  subst hx
  refine Context.authorization_of_exchange hq hbase ?_
  rintro rfl
  exact htoken

namespace Faithful

lemma append {client : Client} {p : Past} (h : Faithful client p) {events : List Event} {s : Session}
    (htoken : s.token = (lastToken events).or p.session.token)
    (hbears : client.base.hasUserInfo = false → EachAfter Event.Bears (p.log ++ events)) :
    Faithful client (p.advance events s) where
  holds := by
    simp only [Past.advance, lastToken_append]
    rw [htoken, h.holds]
  bears := hbears

/-- A call other than one for a challenge or one that answers it. -/
lemma called (h : Faithful context.client w.past) {c : Call} (hc : c.usesSession) {x : Exchange c}
    (hx : x = context.exchange c w.session.token w.replies)
    (hquiet : (Event.called c w.session.token x).token? = none) {s : Session}
    (hs : s.token = w.session.token) :
    Faithful context.client (w.past.advance [.called c w.session.token x] s) := by
  refine h.append (by simp [hs, hquiet]) fun hbase =>
    (h.bears hbase).snoc (Event.bears_exchange hbase hx ?_)
  rw [if_pos hc]
  exact h.holds

/-- A login that ends with the call for the challenge. -/
lemma unchallenged (h : Faithful context.client w.past) {n : Exchange .nonce}
    (hn : n = context.exchange .nonce none w.replies)
    (hquiet : (Event.called .nonce none n).token? = none) {s : Session}
    (hs : s.token = w.session.token) :
    Faithful context.client (w.past.advance [.loginStarted true, .called .nonce none n] s) :=
  h.append (by simp [lastToken_cons, hs, hquiet]) fun hbase =>
    (h.bears hbase).append_pair trivial (Event.bears_exchange hbase hn rfl)

/-- A login that gets as far as the answer. -/
lemma challenged (h : Faithful context.client w.past) {key : PrivateKey} {challenge : Challenge}
    {n : Exchange .nonce} {l : Exchange (.login (.answering key challenge))}
    (hl : Challenged context w key challenge n l) {s : Session}
    (hs : s.token = some (l.tokenOr challenge.token)) :
    Faithful context.client (w.past.advance (loginEvents n challenge.token l) s) := by
  refine h.append (by rw [hs, lastToken_loginEvents hl.came]; rfl) fun hbase => ?_
  refine (h.bears hbase).append_loginEvents trivial (Event.bears_exchange hbase hl.asked rfl) ?_
  refine Event.bears_exchange hbase hl.answered ?_
  simp [Call.usesSession, lastToken_cons, Event.token?_nonce hl.came]

end Faithful

/-- The steps of operations keep to the token that came last. -/
theorem Faithful.holds_keeping : (Law.keeping Faithful).Holds where
  logIn := by
    rintro context w result w' hrule h
    cases hrule with
    | unready hkey => exact h.append rfl fun hbase => (h.bears hbase).snoc trivial
    | challengeDropped key n hkey hn hreply =>
      exact h.unchallenged hn (by simp [Event.token?, hreply]) rfl
    | challengeRefused key n e hkey hn hreply =>
      exact h.unchallenged hn (by simp [Event.token?, hreply]) (Session.withDoubt_token _)
    | answerDropped key challenge n l hl hreply =>
      exact h.challenged hl (by simp [Session.withToken, Exchange.tokenOr, hreply])
    | admitted key challenge n l grant hl hreply =>
      exact h.challenged hl (by
        simp [Session.admitted, Session.withToken, Exchange.tokenOr, hreply])
    | unregistered key challenge n l hl hreply =>
      exact h.challenged hl (by
        simp [Session.withStatus, Session.withToken, Exchange.tokenOr, hreply])
    | walletMissing key challenge n l hl hreply =>
      exact h.challenged hl (by
        simp [Session.withStatus, Session.withToken, Exchange.tokenOr, hreply])
    | answerRefused key challenge n l e hl hreply hu hw =>
      exact h.challenged hl (by simp [Session.withToken, Exchange.tokenOr, hreply])
  call := by
    intro context w c x hc hx h
    exact h.called (Call.usesSession_of_isModule hc) hx
      (Event.token?_of_isModule hc _ _) rfl
  registered := by
    intro context w r x hx hreply h
    exact h.called rfl hx rfl rfl
  refused := by
    intro context w r x e hx hreply h
    exact h.called rfl hx rfl (Session.withDoubt_token _)
  wallet := fun _ _ _ h => ⟨h.holds, h.bears⟩

/-! ### Runs -/

/-- Every run keeps to the token that came last. -/
theorem Faithful.takeAll (client : Client) (turns : List Turn) (wallet : Wallet) (disk : Disk) :
    Faithful client (Turn.takeAll client turns { wallet, disk }).past :=
  Faithful.holds_keeping.keeps_takeAll (w := { wallet, disk }) ⟨rfl, fun _ => eachAfter_nil⟩ turns

/-- In every run with a service URL that names no user, a request for a challenge bears no authorization, and
any other bears the authorization by the token that had come last, if one had come. The answer to a challenge
directly follows the challenge and bears its token. A call to a module that directly follows a login bears
the token of the grant, or that of the challenge if there was no grant. -/
theorem authorization_takeAll {client : Client} (hbase : client.base.hasUserInfo = false)
    (turns : List Turn) (wallet : Wallet) (disk : Disk) {before after : List Event} {c : Call}
    {token : Option String} {x : Exchange c} {q : Request}
    (hlog : (Turn.takeAll client turns { wallet, disk }).log = before ++ .called c token x :: after)
    (hq : x.request = some q) :
    (c = .nonce → q.authorization = none) ∧
      (c ≠ .nonce → q.authorization = (lastToken before).map bearerAuthorization) ∧
      (∀ r, c = .login r → ∃ rest n challenge, before = rest ++ [.called .nonce none n] ∧
        n.outcome = some (.ok challenge) ∧
        q.authorization = some (bearerAuthorization challenge.token)) ∧
      (c.isModule → ∀ rest r t l, before = rest ++ [.called (.login r) t l] →
        ∃ rest' n challenge, rest = rest' ++ [.called .nonce none n] ∧
          n.outcome = some (.ok challenge) ∧
          q.authorization = some (bearerAuthorization (l.tokenOr challenge.token))) := by
  have hbears := (Faithful.takeAll client turns wallet disk).bears hbase
  have hfits := Event.fits_takeAll client turns wallet disk
  obtain ⟨htoken, hq'⟩ := hbears _ _ _ hlog
  have hauthorization := hq' q hq
  have hsession (h : c.usesSession) :
      q.authorization = (lastToken before).map bearerAuthorization := by
    rw [hauthorization, htoken, if_pos h]
  refine ⟨?_, ?_, ?_, ?_⟩
  · rintro rfl
    rw [hauthorization, htoken]
    rfl
  · intro h
    refine hsession ?_
    cases c <;> first | rfl | exact absurd rfl h
  · rintro r rfl
    obtain ⟨rest, n, challenge, key, hbefore, hn, -, hchallenge⟩ := hfits _ _ _ hlog
    refine ⟨rest ++ [.loginStarted true], n, challenge, by simp [hbefore], hn, ?_⟩
    rw [hauthorization, hchallenge]
    rfl
  · intro hc rest r t l hbefore
    obtain ⟨rest', n, challenge, key, hrest, hn, -, -⟩ := hfits rest (.called (.login r) t l)
      (.called c token x :: after) (by simp [hlog, hbefore])
    refine ⟨rest' ++ [.loginStarted true], n, challenge, by simp [hrest], hn, ?_⟩
    rw [hsession (Call.usesSession_of_isModule hc), hbefore, hrest]
    simp [lastToken_cons, Event.token?_nonce hn, Event.token?_login]

/-- The answer to a challenge bears its token. -/
theorem authorization_takeAll_login :
    Client.sample.base.hasUserInfo = false ∧
      ∃ (n : Exchange .nonce) (l : Exchange (.login (.answering .sample ⟨"n", "t"⟩))) (q : Request),
        (Turn.takeAll .sample
            [{ task := .logIn, connection := .sample, replies := Reply.login, now := "noon" }]
            { wallet := Wallet.empty.load .sample }).log =
          [.loginStarted true, .called .nonce none n] ++ [.called _ (some "t") l] ∧
        l.request = some q ∧ q.authorization = some "Bearer t" := by
  let w : World := { wallet := Wallet.empty.load .sample, replies := Reply.login }
  let n := Context.sample.exchange .nonce none Reply.login
  let l := Context.sample.exchange (.login (.answering .sample ⟨"n", "t"⟩)) (some "t") n.rest
  have hn : n.outcome = some (.ok (⟨"n", "t"⟩ : Challenge)) := by decide +kernel
  have hl : l.outcome = some (.ok (⟨"g"⟩ : Service.Grant)) := by decide +kernel
  have hlogin := Act.logIn_of_granted (w := w) ⟨Wallet.readyKey?_load _ _, rfl, hn, rfl⟩ hl
  obtain ⟨q, hq⟩ : ∃ q, l.request = some q := Option.isSome_iff_exists.mp (by decide +kernel)
  have hlog : (Turn.takeAll .sample
      [{ task := .logIn, connection := .sample, replies := Reply.login, now := "noon" }]
      { wallet := Wallet.empty.load .sample }).log =
        [.loginStarted true, .called .nonce none n] ++ [.called _ (some "t") l] := by
    simp only [Turn.takeAll, List.foldl, Turn.take, Daemon.Task.act]
    rw [show (⟨.sample, .sample, "noon"⟩ : Context) = .sample from rfl, hlogin]
    rfl
  refine ⟨rfl, n, l, q, hlog, hq, ?_⟩
  have hauthorization := (authorization_takeAll rfl _ _ _ hlog hq).2.1 (by simp)
  rw [hauthorization, lastToken_cons]
  simp [Event.token?_nonce hn, bearerAuthorization]

end OperatorDaemon
