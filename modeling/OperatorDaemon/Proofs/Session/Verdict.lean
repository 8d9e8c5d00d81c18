import OperatorDaemon.Proofs.Session.Law

/-!
# The status is what the verdicts make of it

Every attempt to log in that runs to its end, and every registration that fails, gives a verdict on the
node. The registration status is the fold of the verdicts that a run has given, and the time of the last
login is that of the last verdict by which the service let the node in.
-/

namespace OperatorDaemon

open Daemon (Turn)
open Service (Challenge Client Exchange LoginRequest)

/-- What an attempt to log in or to register the node tells about it. -/
inductive Verdict where
  /-- The service has let the node in. -/
  | registered
  /-- The service does not know the node. -/
  | unregistered
  /-- The wallet is not fit for logging in. -/
  | noWallet
  /-- Nothing has come of it. -/
  | failed
  deriving DecidableEq, Repr

/-- The verdict that an event gives. An attempt to log in is over when the wallet is not ready, when the
challenge does not come, or when its answer has been judged; it gives no verdict if it is dropped. Of other
calls only a failed registration gives one. -/
def Event.verdict? : Event → Option Verdict
  | .loginStarted ready => if ready then none else some .noWallet
  | .called .nonce _ x =>
    match x.outcome with
    | some (.error _) => some .failed
    | some (.ok _) | none => none
  | .called (.login _) _ x =>
    match x.outcome with
    | some (.ok _) => some .registered
    | some (.error .unregisteredNode) => some .unregistered
    | some (.error .walletNotLoaded) => some .noWallet
    | some (.error _) => some .failed
    | none => none
  | .called (.nodeAddress _) _ x =>
    match x.outcome with
    | some (.error _) => some .failed
    | some (.ok _) | none => none
  | .called _ _ _ => none

/-- The verdicts of a log. -/
def verdicts (log : List Event) : List Verdict := log.filterMap Event.verdict?

/-- The status after a verdict. A failure does not touch a status that a login established. -/
def Status.after : Status → Verdict → Status
  | _, .registered => .registered
  | _, .unregistered => .unregistered
  | _, .noWallet => .noWallet
  | .registered, .failed => .registered
  | .unregistered, .failed => .unregistered
  | .noWallet, .failed => .unknown
  | .unknown, .failed => .unknown

@[simp] lemma verdicts_nil : verdicts [] = [] := rfl

@[simp] lemma verdicts_append (l l' : List Event) : verdicts (l ++ l') = verdicts l ++ verdicts l' :=
  List.filterMap_append

lemma verdicts_cons (e : Event) (l : List Event) :
    verdicts (e :: l) = e.verdict?.toList ++ verdicts l := by
  cases h : e.verdict? <;> simp [verdicts, h]

lemma Session.withDoubt_status (s : Session) : s.withDoubt.status = s.status.after .failed := by
  cases h : s.status <;> simp [withDoubt, withStatus, Status.isKnown, Status.after, h]

lemma Session.withDoubt_lastLogin (s : Session) : s.withDoubt.lastLogin = s.lastLogin := by
  unfold withDoubt
  split <;> rfl

lemma Service.Call.verdict_of_isModule {c : Service.Call} (h : c.isModule) (token : Option String)
    (x : Exchange c) : (Event.called c token x).verdict? = none := by
  cases c <;> first | rfl | cases h

/-! ### Steps -/

/-- The last login after further verdicts at some time. -/
def lastLoginAfter (last : Option String) (now : String) (vs : List Verdict) : Option String :=
  if .registered ∈ vs then some now else last

/-- Further events move the status by their verdicts, and the last login by those among them that let the
node in. -/
def Verdict.law : Law where
  rel context p _ p' := ∃ events, p'.log = p.log ++ events ∧
    p'.session.status = (verdicts events).foldl Status.after p.session.status ∧
    p'.session.lastLogin = lastLoginAfter p.session.lastLogin context.now (verdicts events)
  refl context p := ⟨[], by simp [lastLoginAfter]⟩
  trans := by
    rintro context p₁ p₂ p₃ completed ⟨es, hlog, hstatus, hlast⟩ ⟨es', hlog', hstatus', hlast'⟩
    refine ⟨es ++ es', by rw [hlog', hlog, List.append_assoc], ?_, ?_⟩
    · rw [hstatus', hstatus, verdicts_append, List.foldl_append]
    · rw [hlast', hlast]
      by_cases h : Verdict.registered ∈ verdicts es <;>
        by_cases h' : Verdict.registered ∈ verdicts es' <;> simp [lastLoginAfter, h, h']

lemma verdicts_loginEvents {r : LoginRequest} {n : Exchange .nonce} {challenge : Challenge}
    (h : n.outcome = some (.ok challenge)) (token : String) (l : Exchange (.login r)) :
    verdicts (loginEvents n token l) =
      (Event.called (.login r) (some token) l).verdict?.toList := by
  simp [loginEvents, verdicts_cons, Event.verdict?, h]

lemma Verdict.rel_advance {context : Context} {p : Past} {completed : Bool} {events : List Event}
    {s : Session} (vs : List Verdict) (h : verdicts events = vs)
    (hstatus : s.status = vs.foldl Status.after p.session.status)
    (hlast : s.lastLogin = lastLoginAfter p.session.lastLogin context.now vs) :
    Verdict.law.rel context p completed (p.advance events s) := by
  subst h
  exact ⟨events, rfl, hstatus, hlast⟩

/-- A login and a failed registration move the session by their verdict, and nothing else does. -/
theorem Verdict.holds_law : Verdict.law.Holds where
  logIn := by
    rintro context w result w' hrule
    cases hrule with
    | unready h => exact rel_advance [.noWallet] rfl rfl rfl
    | challengeDropped key n hkey hn h =>
      exact rel_advance [] (by simp [verdicts_cons, Event.verdict?, h]) rfl rfl
    | challengeRefused key n e hkey hn h =>
      exact rel_advance [.failed] (by simp [verdicts_cons, Event.verdict?, h])
        w.session.withDoubt_status w.session.withDoubt_lastLogin
    | answerDropped key challenge n l h hl =>
      exact rel_advance [] (by simp [verdicts_loginEvents h.came, Event.verdict?, hl]) rfl rfl
    | admitted key challenge n l grant h hl =>
      exact rel_advance [.registered] (by simp [verdicts_loginEvents h.came, Event.verdict?, hl]) rfl rfl
    | unregistered key challenge n l h hl =>
      exact rel_advance [.unregistered] (by simp [verdicts_loginEvents h.came, Event.verdict?, hl]) rfl rfl
    | walletMissing key challenge n l h hl =>
      exact rel_advance [.noWallet] (by simp [verdicts_loginEvents h.came, Event.verdict?, hl]) rfl rfl
    | answerRefused key challenge n l e h hl hu hw =>
      refine rel_advance [.failed] ?_ (Session.withDoubt_status _) (Session.withDoubt_lastLogin _)
      rw [verdicts_loginEvents h.came, Event.verdict?, hl]
      split <;> simp_all
  call := by
    intro context w c x hc hx
    exact rel_advance [] (by simp [verdicts_cons, Service.Call.verdict_of_isModule hc]) rfl rfl
  registered := by
    intro context w r x hx h
    refine rel_advance [] ?_ rfl rfl
    match hreply : x.outcome with
    | none => simp [verdicts_cons, Event.verdict?, hreply]
    | some (.ok _) => simp [verdicts_cons, Event.verdict?, hreply]
    | some (.error e) => exact absurd hreply (h e)
  refused := by
    intro context w r x e hx h
    exact rel_advance [.failed] (by simp [verdicts_cons, Event.verdict?, h])
      w.session.withDoubt_status w.session.withDoubt_lastLogin
  wallet := fun context p _ => Verdict.law.refl context p

/-! ### Runs -/

/-- The events of turns, each with the time of its turn. -/
def Daemon.Turn.history (client : Client) : List Turn → World → List (String × Event)
  | [], _ => []
  | t :: turns, w =>
    let w' := (t.take client w).2
    (w'.log.drop w.log.length).map (fun e => (t.now, e)) ++ history client turns w'

/-- The time of the latest event of a history by which the service let the node in. -/
def lastAdmission (history : List (String × Event)) : Option String :=
  (history.filter fun entry => entry.2.verdict? = some .registered).getLast?.map Prod.fst

lemma lastAdmission_append (h h' : List (String × Event)) :
    lastAdmission (h ++ h') = (lastAdmission h').or (lastAdmission h) := by
  simp only [lastAdmission, List.filter_append, List.getLast?_append, Option.map_or]

lemma lastAdmission_map (now : String) (events : List Event) :
    lastAdmission (events.map fun e => (now, e)) = lastLoginAfter none now (verdicts events) := by
  have hmem : Verdict.registered ∈ verdicts events ↔
      events.filter (fun e => e.verdict? = some .registered) ≠ [] := by
    simp [verdicts, List.filter_eq_nil_iff]
  rw [lastLoginAfter]
  cases hlast : (events.filter fun e => e.verdict? = some .registered).getLast? with
  | none =>
    rw [List.getLast?_eq_none_iff] at hlast
    simp [lastAdmission, List.filter_map, Function.comp_def, hmem, hlast]
  | some e =>
    have hne : events.filter (fun e => e.verdict? = some .registered) ≠ [] := by
      rintro hnil
      simp [hnil] at hlast
    simp [lastAdmission, List.filter_map, Function.comp_def, hmem.mpr hne, hlast]

lemma lastLoginAfter_eq (last : Option String) (now : String) (vs : List Verdict) :
    lastLoginAfter last now vs = (lastLoginAfter none now vs).or last := by
  unfold lastLoginAfter
  split <;> rfl

namespace Daemon.Turn

lemma takeAll_cons (client : Client) (t : Turn) (turns : List Turn) (w : World) :
    takeAll client (t :: turns) w = takeAll client turns (t.take client w).2 := rfl

lemma takeAll_concat (client : Client) (turns : List Turn) (t : Turn) (w : World) :
    takeAll client (turns ++ [t]) w = (t.take client (takeAll client turns w)).2 := by
  simp [takeAll]

lemma history_cons {client : Client} {t : Turn} {w : World} {events : List Event}
    (h : (t.take client w).2.log = w.log ++ events) (turns : List Turn) :
    history client (t :: turns) w =
      events.map (fun e => (t.now, e)) ++ history client turns (t.take client w).2 := by
  simp only [history, h, List.drop_left]

/-- What a turn makes of a session, by what happens in it. -/
lemma session_take (client : Client) (t : Turn) (w : World) :
    ∃ events, (t.take client w).2.log = w.log ++ events ∧
      (t.take client w).2.session.status =
        (verdicts events).foldl Status.after w.session.status ∧
      (t.take client w).2.session.lastLogin =
        (lastAdmission (events.map fun e => (t.now, e))).or w.session.lastLogin := by
  obtain ⟨events, hlog, hstatus, hlast⟩ := Verdict.holds_law.rel_take client t w
  refine ⟨events, hlog, hstatus, ?_⟩
  rw [lastAdmission_map, ← lastLoginAfter_eq]
  exact hlast

/-- What turns make of a session, by what happens in them. -/
lemma session_takeAll (client : Client) (turns : List Turn) (w : World) :
    (takeAll client turns w).log = w.log ++ (history client turns w).map Prod.snd ∧
      (takeAll client turns w).session.status =
        (verdicts ((history client turns w).map Prod.snd)).foldl Status.after w.session.status ∧
      (takeAll client turns w).session.lastLogin =
        (lastAdmission (history client turns w)).or w.session.lastLogin := by
  induction turns generalizing w with
  | nil => simp [takeAll, history, lastAdmission]
  | cons t turns ih =>
    obtain ⟨events, hlog, hstatus, hlast⟩ := session_take client t w
    obtain ⟨ihlog, ihstatus, ihlast⟩ := ih (t.take client w).2
    have hsnd : (events.map fun e => (t.now, e)).map Prod.snd = events := by
      simp [Function.comp_def]
    rw [takeAll_cons, history_cons hlog, List.map_append, hsnd]
    refine ⟨?_, ?_, ?_⟩
    · rw [ihlog, hlog, List.append_assoc]
    · rw [ihstatus, hstatus, verdicts_append, List.foldl_append]
    · rw [ihlast, hlast, lastAdmission_append, Option.or_assoc]

end Daemon.Turn

end OperatorDaemon
