import OperatorDaemon.Proofs.Session.Count
import OperatorDaemon.Proofs.Session.Credential
import OperatorDaemon.Proofs.Session.Verdict

/-!
# The token of a registered node

A node is believed to be registered only after the service has granted it a login. From then on its token is
that of the grant, until a challenge brings another: a login that does not get past its challenge leaves the
token of the challenge behind, while the node is still believed to be registered.
-/

namespace OperatorDaemon

open Daemon (Turn)
open Service (Client Exchange Grant LoginRequest Reply)

/-! ### The last grant -/

/-- The last login of a log that the service has granted, with what came before it and after it. -/
structure LastGrant (log : List Event) where
  before : List Event
  request : LoginRequest
  token : Option String
  exchange : Exchange (.login request)
  grant : Grant
  after : List Event
  log_eq : log = before ++ .called (.login request) token exchange :: after
  granted : exchange.outcome = some (.ok grant)
  isLast : ∀ e ∈ after, e.verdict? ≠ some .registered

/-- The service lets a node in by granting a login. -/
lemma Event.exists_grant {e : Event} (h : e.verdict? = some .registered) :
    ∃ (r : LoginRequest) (token : Option String) (l : Exchange (.login r)) (grant : Grant),
      e = .called (.login r) token l ∧ l.outcome = some (.ok grant) := by
  cases e with
  | loginStarted ready => cases ready <;> cases h
  | called c token x =>
    match c, x with
    | .login r, l =>
      match hreply : l.outcome with
      | some (.ok grant) => exact ⟨r, token, l, grant, rfl, hreply⟩
      | none => simp [verdict?, hreply] at h
      | some (.error e) =>
        simp only [verdict?, hreply] at h
        split at h <;> simp_all
    | .nonce, x | .nodeAddress _, x =>
      simp only [verdict?] at h
      split at h <;> simp_all
    | .vaults .., _ | .vaultValidators .., _ | .validatorCounts .., _ | .postValidators .., _
    | .whitelisting .., _ | .postWhitelisting .., _ | .depositSignature .., _
    | .minipoolValidators .., _ | .uploadExits .., _ => cases h

namespace LastGrant

variable {log : List Event}

/-- The last grant of a log is that of a longer one with further events in front. -/
def prepend {log' events : List Event} (a : LastGrant log) (h : log' = events ++ log) :
    LastGrant log' where
  before := events ++ a.before
  request := a.request
  token := a.token
  exchange := a.exchange
  grant := a.grant
  after := a.after
  log_eq := by rw [h, List.append_assoc, ← a.log_eq]
  granted := a.granted
  isLast := a.isLast

/-- The last grant of a log is that of a longer one in which no other follows. -/
def append {log' events : List Event} (a : LastGrant log) (h : log' = log ++ events)
    (hquiet : ∀ e ∈ events, e.verdict? ≠ some .registered) : LastGrant log' where
  before := a.before
  request := a.request
  token := a.token
  exchange := a.exchange
  grant := a.grant
  after := a.after ++ events
  log_eq := by rw [h, ← List.cons_append, ← List.append_assoc, ← a.log_eq]
  granted := a.granted
  isLast e he := (List.mem_append.mp he).elim (a.isLast e) (hquiet e)

lemma isPrefix (a : LastGrant log) :
    a.before ++ [.called (.login a.request) a.token a.exchange] <+: log :=
  ⟨a.after, by rw [List.append_assoc, List.singleton_append, ← a.log_eq]⟩

lemma mem (a : LastGrant log) : .called (.login a.request) a.token a.exchange ∈ log :=
  a.isPrefix.subset (List.mem_append_right _ List.mem_cons_self)

lemma exists_of_mem (h : Verdict.registered ∈ verdicts log) : Nonempty (LastGrant log) := by
  induction log with
  | nil => cases h
  | cons e log ih =>
    by_cases hlog : Verdict.registered ∈ verdicts log
    · exact (ih hlog).map fun a => a.prepend (List.singleton_append).symm
    · rw [verdicts_cons, List.mem_append, Option.mem_toList] at h
      obtain ⟨r, token, l, grant, rfl, hl⟩ := Event.exists_grant (h.resolve_right hlog)
      refine ⟨⟨[], r, token, l, grant, log, rfl, hl, fun e he hverdict => hlog ?_⟩⟩
      exact List.mem_filterMap.mpr ⟨e, he, hverdict⟩

/-- The token that came last is that of the last grant, or one that has come since. -/
lemma lastToken_eq (a : LastGrant log) :
    lastToken log = some ((lastToken a.after).getD a.grant.token) := by
  have hgrant : (Event.called (.login a.request) a.token a.exchange).token? = some a.grant.token := by
    simp [Event.token?, a.granted]
  have hlog := congrArg lastToken a.log_eq
  rw [lastToken_append, lastToken_cons, hgrant] at hlog
  rw [hlog]
  cases lastToken a.after <;> rfl

/-- A token that has come since the last grant is that of a challenge. -/
lemma isNonceCall_of_token? (a : LastGrant log) {e : Event} (he : e ∈ a.after) {token : String}
    (htoken : e.token? = some token) : e.isNonceCall := by
  have hlast := a.isLast e he
  cases e with
  | loginStarted ready => cases htoken
  | called c t x =>
    cases c with
    | nonce => rfl
    | login r =>
      match hreply : x.outcome with
      | none => simp [Event.token?, hreply] at htoken
      | some (.error _) => simp [Event.token?, hreply] at htoken
      | some (.ok grant) => simp [Event.verdict?, hreply] at hlast
    | _ => cases htoken

end LastGrant

/-! ### Registered nodes -/

lemma Status.registered_mem_of_foldl {s : Status} {vs : List Verdict}
    (h : vs.foldl Status.after s = .registered) (hs : s ≠ .registered) : .registered ∈ vs := by
  induction vs generalizing s with
  | nil => exact absurd h hs
  | cons v vs ih =>
    by_cases hv : v = .registered
    · exact hv ▸ List.mem_cons_self
    · refine List.mem_cons_of_mem _ (ih h ?_)
      cases s <;> cases v <;> simp_all [Status.after]

/-- A node that is believed to be registered has been granted a login. -/
lemma LastGrant.exists_of_registered {client : Client} {turns : List Turn} {wallet : Wallet}
    {disk : Disk} (h : (Turn.takeAll client turns { wallet, disk }).session.status = .registered) :
    Nonempty (LastGrant (Turn.takeAll client turns { wallet, disk }).log) := by
  obtain ⟨hlog, hstatus, -⟩ := Turn.session_takeAll client turns { wallet, disk }
  refine exists_of_mem ?_
  rw [hlog]
  exact Status.registered_mem_of_foldl (hstatus ▸ h) (by simp)

/-- After every run that leaves the node registered, the token of the session is that of the last grant unless
a challenge has come since: then it is that of the last challenge, and that of the grant only if the two are
the same. -/
theorem token_of_registered {client : Client} {turns : List Turn} {wallet : Wallet} {disk : Disk}
    (h : (Turn.takeAll client turns { wallet, disk }).session.status = .registered) :
    let w := Turn.takeAll client turns { wallet, disk }
    ∃ a : LastGrant w.log,
      w.session.token = some ((lastToken a.after).getD a.grant.token) ∧
        (∀ e ∈ a.after, ∀ token, e.token? = some token → e.isNonceCall) ∧
        (w.session.token = some a.grant.token ↔
          ∀ token, lastToken a.after = some token → token = a.grant.token) := by
  obtain ⟨a⟩ := LastGrant.exists_of_registered h
  have htoken := (Faithful.takeAll client turns wallet disk).holds
  rw [World.past_session, World.past_log, a.lastToken_eq] at htoken
  refine ⟨a, htoken, fun e he token => a.isNonceCall_of_token? he, ?_⟩
  rw [htoken]
  cases lastToken a.after <;> simp

/-- A login that is granted. -/
def Daemon.Turn.granted : Turn :=
  { task := .logIn, connection := .sample, replies := Reply.login, now := "noon" }

/-- A login that is granted, one whose answer is lost, and a look at the vaults of a deployment. -/
def Daemon.Turn.halfReplacing : List Turn :=
  [.granted, { Turn.granted with replies := Reply.login.take 1 },
    { task := .operate (.vaults "d"), connection := .sample
      replies := [.granting "\x7b\"vaults\":[]\x7d"], now := "noon" }]

/-- After a login that is granted, the token is that of the grant. -/
theorem token_of_registered_granted :
    let w := Turn.takeAll .sample [.granted] { wallet := Wallet.empty.load .sample }
    w.session.status = .registered ∧
      ∃ a : LastGrant w.log, w.session.token = some ((lastToken a.after).getD a.grant.token) ∧
        w.session.token = some "g" := by
  have hsession : (Turn.takeAll .sample [.granted] { wallet := Wallet.empty.load .sample }).session =
      ⟨some "g", .registered, some "noon"⟩ := by decide +kernel
  have hstatus := congrArg Session.status hsession
  obtain ⟨a, htoken, -⟩ := token_of_registered hstatus
  exact ⟨hstatus, a, htoken, congrArg Session.token hsession⟩

/-- After a login that is granted and one that does not get past its challenge, the node is believed to be
registered, but the token is not that of the grant, and the vaults are asked for with it. -/
theorem token_ne_grant_of_halfReplacing :
    let w := Turn.takeAll .sample Turn.halfReplacing { wallet := Wallet.empty.load .sample }
    w.session.status = .registered ∧ (∃ a : LastGrant w.log, a.grant.token = "g") ∧
      w.session.token = some "t" ∧
      w.requests.getLast?.bind Service.Request.authorization = some "Bearer t" := by
  obtain ⟨hsession, hsent, hgrants⟩ :
      let w := Turn.takeAll .sample Turn.halfReplacing { wallet := Wallet.empty.load .sample }
      w.session = ⟨some "t", .registered, some "noon"⟩ ∧
        w.requests.getLast?.bind Service.Request.authorization = some "Bearer t" ∧
        w.log.all fun e => e.verdict? ≠ some .registered ∨ e.token? = some "g" := by
    decide +kernel
  have hstatus := congrArg Session.status hsession
  obtain ⟨a⟩ := LastGrant.exists_of_registered hstatus
  refine ⟨hstatus, ⟨a, ?_⟩, congrArg Session.token hsession, hsent⟩
  have hgrant := List.all_eq_true.mp hgrants _ a.mem
  simpa [Event.verdict?, Event.token?, a.granted] using hgrant

end OperatorDaemon
