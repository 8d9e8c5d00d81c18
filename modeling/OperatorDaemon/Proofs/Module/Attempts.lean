import OperatorDaemon.Proofs.Session.Count
import OperatorDaemon.Proofs.Session.Law

/-!
# An operation is attempted at most twice

An operation makes its call, and makes it once more after a login if the service has turned the call away.
It comes to an end unless the service may leave it hanging, and `Attempts` lists the ways in which it can go.
-/

namespace OperatorDaemon

open OperatorDaemon.Module (Answer Operation)
open Service (Call Challenge Error Exchange LoginRequest Reply)

section

variable (o : Operation) (token : Option String) (x : Exchange o.call.1)

@[simp] lemma Event.isNonceCall_operation : (called o.call.1 token x).isNonceCall = false :=
  isNonceCall_of_isModule token x o.isModule_call

@[simp] lemma Event.isLoginCall_operation : (called o.call.1 token x).isLoginCall = false :=
  isLoginCall_of_isModule token x o.isModule_call

end

/-! ### Operations -/

namespace Module.Operation

/-- The outcome of an operation by that of its call. -/
def conclude (o : Operation) : Except Error o.call.1.Data → Except Error Answer
  | .error e => o.refusal e
  | .ok data =>
    match o.call.2 data with
    | .ok payload => .ok (.granted payload)
    | .error e => .error (.during o.name e)

/-- An operation that can be tried is its call. -/
lemma run_eq {o : Operation} (h : o.fault? = none) : o.run = o.conclude <$> Act.request o.call.1 := by
  rw [map_eq_pure_bind, run, h]
  refine bind_congr fun reply => ?_
  match reply with
  | .error e => rfl
  | .ok data =>
    dsimp only [conclude]
    cases o.call.2 data <;> rfl

/-- An operation takes four calls at most. -/
lemma calls_le (o : Operation) (context : Context) (w : World) :
    ∃ events, (o.run context w).2.log = w.log ++ events ∧ events.countP Event.isCall ≤ 4 := by
  cases hfault : o.fault? with
  | some e => exact ⟨[], by simp [run, hfault], Nat.zero_le 4⟩
  | none =>
    rw [run_eq hfault, Act.run_map]
    exact RequestRule.calls_le (.of_request rfl)

end Module.Operation

/-- The ways in which an operation can go in a world if it is not dropped, with the events that it records
and its outcome. -/
inductive Attempts (o : Operation) (context : Context) (w : World) :
    List Event → Except Error Answer → Prop where
  /-- The first attempt is not turned away, and its outcome counts. -/
  | once (x : Exchange o.call.1) (outcome : Except Error o.call.1.Data)
      (hx : x = context.exchange o.call.1 w.session.token w.replies)
      (hkept : ¬ context.TurnsAway o.call.1 w.session.token w.replies)
      (houtcome : x.outcome = some outcome) :
      Attempts o context w [.called o.call.1 w.session.token x] (o.conclude outcome)
  /-- The first attempt is turned away, and the login fails. -/
  | loginFailed (x : Exchange o.call.1) (login : List Event) (e : Error)
      (hx : x = context.exchange o.call.1 w.session.token w.replies)
      (haway : context.TurnsAway o.call.1 w.session.token w.replies)
      (hlogin : LogInFailure login e) :
      Attempts o context w (.called o.call.1 w.session.token x :: login) (o.conclude (.error e))
  /-- The first attempt is turned away, the login is completed, and the outcome of the second attempt
  counts. The second attempt is the first one with another token. -/
  | again (x x' : Exchange o.call.1) (token' : Option String) (replies' : List Reply)
      (n : Exchange .nonce) (challenge : Challenge) (r : LoginRequest) (l : Exchange (.login r))
      (outcome : Except Error o.call.1.Data)
      (hx : x = context.exchange o.call.1 w.session.token w.replies)
      (haway : context.TurnsAway o.call.1 w.session.token w.replies)
      (hlogin : LogInSuccess n challenge l)
      (hx' : x' = context.exchange o.call.1 token' replies')
      (hsame : ∀ q q', x.request = some q → x'.request = some q' →
        q'.method = q.method ∧ q'.url = q.url ∧ q'.body = q.body)
      (houtcome : x'.outcome = some outcome) :
      Attempts o context w
        (.called o.call.1 w.session.token x ::
          (loginEvents n challenge.token l ++ [.called o.call.1 token' x']))
        (o.conclude outcome)

namespace Attempts

variable {o : Operation} {context : Context} {w : World}

/-- There are no other ways for an operation to go. -/
lemma of_run (hfault : o.fault? = none) {result : Except Error Answer} {w' : World}
    (h : o.run context w = (some result, w')) :
    ∃ events, w'.log = w.log ++ events ∧ Attempts o context w events result := by
  have htoken (s : Session) : o.call.1.tokenIn s = s.token :=
    Call.tokenIn_of_usesSession (Call.usesSession_of_isModule o.isModule_call) s
  have haway {x : Exchange o.call.1} {e : Error}
      (hx : x = context.exchange o.call.1 (o.call.1.tokenIn w.session) w.replies)
      (hreply : x.outcome = some (.error e)) (he : e.isInvalidSession) :
      context.TurnsAway o.call.1 w.session.token w.replies := by
    rw [← Context.exists_outcome_isInvalidSession, ← htoken, ← hx]
    exact ⟨e, hreply, he⟩
  rw [Operation.run_eq hfault, Act.run_map] at h
  obtain ⟨hmap, hworld⟩ := Prod.ext_iff.mp h
  obtain ⟨outcome, houtcome, rfl⟩ := Option.map_eq_some_iff.mp hmap
  have hrequest : Act.request o.call.1 context w = (some outcome, w') := Prod.ext houtcome hworld
  have hrule := RequestRule.of_request hrequest
  generalize hresult : some outcome = result at hrule
  cases hrule with
  | once x hx hvalid =>
    refine ⟨[.called o.call.1 (o.call.1.tokenIn w.session) x], rfl, ?_⟩
    rw [htoken] at hx ⊢
    refine once x outcome hx ?_ hresult.symm
    rw [← Context.exists_outcome_isInvalidSession, ← hx]
    rintro ⟨e, he, hinvalid⟩
    simp [hvalid e he] at hinvalid
  | loginDropped x e w' hx hreply he hlogin => cases hresult
  | loginFailed x e e' w' hx hreply he hlogin =>
    obtain ⟨login, hlog, hfailure⟩ := hlogin.failure
    cases hresult
    refine ⟨.called o.call.1 (o.call.1.tokenIn w.session) x :: login, by simp [hlog], ?_⟩
    have haway := haway hx hreply he
    rw [htoken] at hx ⊢
    exact loginFailed x login e' hx haway hfailure
  | again x x' e w' hx hreply he hlogin hx' =>
    obtain ⟨n, challenge, r, l, hlog, hsuccess⟩ := hlogin.success
    refine ⟨.called o.call.1 (o.call.1.tokenIn w.session) x ::
      (loginEvents n challenge.token l ++ [.called o.call.1 (o.call.1.tokenIn w'.session) x']),
      by simp [hlog], ?_⟩
    have haway := haway hx hreply he
    rw [htoken] at hx ⊢
    refine again x x' _ _ n challenge r l outcome hx haway hsuccess hx' ?_ hresult.symm
    rintro q q' hq hq'
    exact Context.request_congr (hx ▸ hq) (hx' ▸ hq')

lemma bounds {events : List Event} {result : Except Error Answer}
    (h : Attempts o context w events result) :
    (0 < events.countP Event.isLoginStart ↔
        context.TurnsAway o.call.1 w.session.token w.replies) ∧
      events.countP Event.isModuleCall ≤ 2 ∧ events.countP Event.isNonceCall ≤ 1 ∧
      events.countP Event.isLoginCall ≤ 1 := by
  cases h with
  | once x outcome hx hkept houtcome => simp [hkept]
  | loginFailed x login e hx haway hlogin =>
    have hbounds := hlogin.bounds
    simp [haway, hbounds.module, hbounds.nonce, hbounds.login, hbounds.start]
  | again x x' token' replies' n challenge r l outcome hx haway hlogin hx' hsame houtcome =>
    have hbounds := LogInBounds.challenged n challenge.token l
    simp [List.countP_append, haway, hbounds.module, hbounds.nonce, hbounds.login, hbounds.start]

end Attempts

/-- An operation that can be tried comes to an end unless the service may leave it hanging. It is one attempt,
or one attempt and a failed login, or one attempt, a completed login and the same attempt again; it starts a
login if the service has turned the first attempt away, and only then. -/
theorem attempts_run {o : Operation} (hfault : o.fault? = none) (context : Context) (w : World) :
    (context.connection.dropsSilent = false → (o.run context w).1.isSome) ∧
      ∀ result w', o.run context w = (some result, w') →
        ∃ events, w'.log = w.log ++ events ∧ Attempts o context w events result ∧
          (0 < events.countP Event.isLoginStart ↔
            context.TurnsAway o.call.1 w.session.token w.replies) ∧
          events.countP Event.isModuleCall ≤ 2 ∧ events.countP Event.isNonceCall ≤ 1 ∧
          events.countP Event.isLoginCall ≤ 1 := by
  refine ⟨Law.holds_completing.obeys_run o context w, fun result w' hrun => ?_⟩
  obtain ⟨events, hlog, hattempts⟩ := Attempts.of_run hfault hrun
  exact ⟨events, hlog, hattempts, hattempts.bounds⟩

/-- The world of a node whose session has expired, and whose service grants a login and then lists no
vaults. -/
def World.expired : World where
  wallet := Wallet.empty.load .sample
  replies := .answer 401 [] :: (Service.Reply.login ++ [.granting "\x7b\"vaults\":[]\x7d"])

/-- The vaults are asked for twice, with a login in between. -/
theorem attempts_run_again :
    (Operation.vaults "d").fault? = none ∧
      ∃ (w' : World) (events : List Event),
        w'.log = World.expired.log ++ events ∧ w'.requests.length = 4 ∧
          Attempts (.vaults "d") .sample .expired events (.ok (.granted (.vaults []))) := by
  have hanswer : ((Operation.vaults "d").run .sample .expired).1 =
      some (.ok (.granted (.vaults []))) := by decide +kernel
  have hrequests : ((Operation.vaults "d").run .sample .expired).2.requests.length = 4 := by
    decide +kernel
  rcases hrun : (Operation.vaults "d").run .sample .expired with ⟨result, w'⟩
  rw [hrun] at hanswer hrequests
  obtain rfl : result = _ := hanswer
  obtain ⟨events, hlog, hattempts, -⟩ :=
    (attempts_run (o := .vaults "d") rfl .sample .expired).2 _ w' hrun
  exact ⟨rfl, w', events, hlog, hrequests, hattempts⟩

end OperatorDaemon
