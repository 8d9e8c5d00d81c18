import OperatorDaemon.Proofs.Session.Admission
import OperatorDaemon.Proofs.Session.Lockstep

/-!
# Tokens stay in the session

Two runs in which the service replies alike, but for the tokens that it gives out, cannot be told apart: each
turn has the same result, the status is the same, and so are the requests but for their authorizations.
-/

namespace OperatorDaemon

open OperatorDaemon.Module (Operation)
open Daemon (Task Turn)
open Service (Call Challenge Client Grant LoginRequest Reply ScriptsAlike)

/-! ### Operations of the modules -/

namespace Act

lemma discreet_run (o : Operation) : o.run.Discreet := by
  unfold Operation.run
  split
  · exact .pure _
  · refine .bind (discreet_request o.isModule_call) fun reply => ?_
    match reply with
    | .error e => exact .pure _
    | .ok data =>
      dsimp only
      split <;> exact .pure _

lemma discreet_runGated (o : Operation) : (Api.runGated o).Discreet := by
  refine .bind discreet_requireWallet fun wallet => ?_
  match wallet with
  | .error _ => exact .pure _
  | .ok () =>
    refine .bind discreet_requireRegistered fun registered => ?_
    match registered with
    | .error requirement => cases requirement <;> exact .pure _
    | .ok () =>
      refine .bind (discreet_run o) fun answer => ?_
      cases answer <;> exact .pure _

end Act

/-! ### Requests to the daemon -/

namespace Api

lemma healthResponse_congr {s s' : Session} (h : s.Twin s') (readiness : Wallet.Readiness) :
    healthResponse readiness s = healthResponse readiness s' := by
  simp only [healthResponse, h.status, h.lastLogin]

lemma discreet_moduleRoute (m : ModuleRoute) (r : Request) : (m.respond r).Discreet := by
  unfold ModuleRoute.respond
  split
  · exact .pure _
  · split
    · exact .pure _
    · exact Act.discreet_runGated _

lemma discreet_respond (route : Route) (r : Request) : (route.respond r).Discreet := by
  cases route with
  | health =>
    refine .world_bind fun w w' hw => ?_
    rw [hw.walletStatus, healthResponse_congr hw.session]
    exact .pure rfl
  | liveness => exact .pure _
  | walletStatus =>
    refine .world_bind fun w w' hw => ?_
    rw [hw.walletStatus]
    exact .pure rfl
  | registrationStatus => exact .bind Act.discreet_registrationStatus fun _ => .pure _
  | registerNode =>
    rw [Route.respond]
    split
    · exact .pure _
    · refine .bind (Act.discreet_register _) fun registration => ?_
      cases registration <;> exact .pure _
  | module m => exact discreet_moduleRoute m r

lemma discreet_dispatch (r : Request) : (dispatch r).Discreet := by
  unfold dispatch
  split
  · exact .pure _
  · split
    · exact discreet_respond _ r
    · split
      · exact .bind (discreet_respond _ r) fun _ => .pure _
      · exact .pure _

lemma discreet_handle (freshId : String) (r : Request) : (handle freshId r).Discreet := by
  unfold handle
  split
  · exact .pure _
  · exact .bind (discreet_dispatch r) fun _ => .pure _

end Api

/-! ### Tasks -/

namespace Daemon.Task

lemma discreet_putWallet (wallet : Wallet) : (putWallet wallet).Discreet :=
  Act.Lockstep.of_quiet (fun _ _ => rfl) fun _ _ _ h =>
    ⟨.some rfl, ⟨rfl, h.disk, h.session, h.requests, h.pending⟩, rfl, rfl⟩

lemma discreet_putDisk (disk : Disk) : (putDisk disk).Discreet :=
  Act.Lockstep.of_quiet (fun _ _ => rfl) fun _ _ _ h =>
    ⟨.some rfl, ⟨h.wallet, rfl, h.session, h.requests, h.pending⟩, rfl, rfl⟩

/-- Every task is discreet. -/
theorem discreet_act (t : Task) : t.act.Discreet := by
  cases t with
  | loadHex text =>
    rw [act]
    split
    · exact .pure _
    · refine .world_bind fun w w' hw => ?_
      rw [hw.wallet]
      exact Act.Discreet.bind (discreet_putWallet _) fun _ => .pure _
  | loadFile path =>
    refine .world_bind fun w w' hw => ?_
    rw [hw.wallet, hw.disk]
    cases w'.wallet.loadFile w'.disk path with
    | error e => exact .pure rfl
    | ok loaded => exact Act.Discreet.bind (discreet_putWallet _) fun _ => .pure _
  | writeFile path contents =>
    refine .world_bind fun w w' hw => ?_
    rw [hw.disk]
    exact discreet_putDisk _
  | removeFile path =>
    refine .world_bind fun w w' hw => ?_
    rw [hw.disk]
    exact discreet_putDisk _
  | setAddress address =>
    refine .world_bind fun w w' hw => ?_
    rw [hw.wallet]
    exact discreet_putWallet _
  | unload =>
    refine .world_bind fun w w' hw => ?_
    rw [hw.wallet]
    exact discreet_putWallet _
  | sign message =>
    refine .world_bind fun w w' hw => ?_
    rw [hw.wallet]
    exact .pure rfl
  | requireWallet => exact Act.discreet_requireWallet
  | requireRegistered => exact Act.discreet_requireRegistered
  | lookUp => exact Act.discreet_registrationStatus
  | logIn => exact Act.discreet_logIn
  | register email => exact Act.discreet_register email
  | wait moreLooks? => exact Act.discreet_wait moreLooks?
  | operate o => exact Act.discreet_run o
  | handle freshId r => exact Api.discreet_handle freshId r

end Daemon.Task

/-! ### Runs -/

namespace Daemon.Turn

variable {client : Client}

/-- What can be seen of a turn from outside: the task and its result, the status and the last login after it,
and the requests that have been sent by then, without the values of their authorizations. -/
structure Sight where
  task : Task
  result : Option task.Result
  status : Status
  lastLogin : Option String
  requests : List Service.Request

/-- What can be seen of a turn with a result that leaves a world. -/
def sight (t : Turn) (result : Option t.task.Result) (w : World) : Sight where
  task := t.task
  result
  status := w.session.status
  lastLogin := w.session.lastLogin
  requests := w.requests.map Service.Request.anonymous

/-- What can be seen of turns. -/
def sights (client : Client) : List Turn → World → List Sight
  | [], _ => []
  | t :: turns, w =>
    t.sight (t.take client w).1 (t.take client w).2 :: sights client turns (t.take client w).2

/-- Two runs are alike: turn by turn they differ only in the replies, and the replies are alike for the calls
with which the first run meets them. -/
inductive Alike (client : Client) : World → List Turn → List Turn → Prop where
  /-- There are no turns. -/
  | nil (w : World) : Alike client w [] []
  /-- The replies of the first turn are alike, and so are the turns behind it. -/
  | cons (w : World) (t : Turn) (replies' : List Reply) (turns turns' : List Turn) (events : List Event)
      (hlog : (t.take client w).2.log = w.log ++ events)
      (hscripts : ScriptsAlike (arrivals events) t.replies replies')
      (hrest : Alike client (t.take client w).2 turns turns') :
      Alike client w (t :: turns) ({ t with replies := replies' } :: turns')

/-- A turn in twin worlds, with replies that are alike. -/
lemma take_twin {w w' : World} (hw : w.Twin w') (t : Turn) {replies' : List Reply}
    {events : List Event} (hlog : (t.take client w).2.log = w.log ++ events)
    (hscripts : ScriptsAlike (arrivals events) t.replies replies') :
    (t.take client w).1 = (take client { t with replies := replies' } w').1 ∧
      (t.take client w).2.Twin (take client { t with replies := replies' } w').2 := by
  have htwin : World.Twin { w with replies := t.replies } { w' with replies := replies' } :=
    ⟨hw.wallet, hw.disk, hw.session, hw.requests, hscripts.length_eq⟩
  have hends : Act.Ends Eq [] (t.task.act ⟨client, t.connection, t.now⟩ { w with replies := t.replies })
      (t.task.act ⟨client, t.connection, t.now⟩ { w' with replies := replies' }) :=
    t.task.discreet_act.goes hlog htwin (by rwa [List.append_nil])
  obtain ⟨hwallet, hdisk, hsession, hrequests, -⟩ := hends.world
  exact ⟨hends.result_eq, hwallet, hdisk, hsession, hrequests, rfl⟩

lemma sight_congr {w w' : World} (hw : w.Twin w') (t : Turn) (replies' : List Reply)
    (result : Option t.task.Result) :
    t.sight result w = sight { t with replies := replies' } result w' := by
  simp only [sight, hw.session.status, hw.session.lastLogin, hw.requests]

/-- Runs from twin worlds that are alike cannot be told apart. -/
lemma sights_eq {w w' : World} (hw : w.Twin w') {turns turns' : List Turn}
    (h : Alike client w turns turns') : sights client turns w = sights client turns' w' := by
  -- Along the first run, for all twins of its worlds: each turn leaves twins behind.
  induction h generalizing w' with
  | nil w => rfl
  | cons w t replies' turns turns' events hlog hscripts hrest ih =>
    obtain ⟨hresult, hworld⟩ := take_twin hw t hlog hscripts
    rw [sights, sights, ih hworld, hresult, sight_congr hworld t replies']

end Daemon.Turn

/-- Two runs from the start whose replies agree but for the tokens in challenges and grants cannot be told apart
from outside: the results of the turns are the same, errors and answers to requests included, and so are the
statuses after them, the times of the last login, and all requests but for the values of their authorizations. -/
theorem sights_eq_of_alike {client : Client} {wallet : Wallet} {disk : Disk} {turns turns' : List Turn}
    (h : Turn.Alike client { wallet, disk } turns turns') :
    Turn.sights client turns { wallet, disk } = Turn.sights client turns' { wallet, disk } :=
  Turn.sights_eq (.refl _) h

/-- The replies to a login that is granted, with other tokens. -/
def Service.Reply.otherLogin : List Reply :=
  [.granting "\x7b\"nonce\":\"n\",\"token\":\"u\"\x7d", .granting "\x7b\"token\":\"h\"\x7d"]

lemma Service.Reply.brings_challenge {body : List UInt8} {challenge : Challenge}
    (h : (Service.Envelope.codec Challenge.codec).readBytes body =
      .ok ⟨false, "", "", some challenge⟩) : (answer 200 body).Brings .nonce challenge :=
  ⟨rfl, rfl, _, h, rfl⟩

lemma Service.Reply.brings_grant {r : LoginRequest} {body : List UInt8} {grant : Grant}
    (h : (Service.Envelope.codec Grant.codec).readBytes body = .ok ⟨false, "", "", some grant⟩) :
    (answer 200 body).Brings (.login r) grant :=
  ⟨rfl, rfl, _, h, rfl⟩

/-- The replies to two logins that are granted are alike. -/
lemma Service.Reply.alike_otherLogin (r : LoginRequest) :
    ScriptsAlike [.nonce, .login r] login otherLogin := by
  refine .cons _ _ _ _ _ _ (.tokens _ _ (⟨"n", "t"⟩ : Challenge) (⟨"n", "u"⟩ : Challenge) ?_ ?_
      ⟨rfl, by decide, by decide⟩)
    (.cons _ _ _ _ _ _ (.tokens _ _ (⟨"g"⟩ : Grant) (⟨"h"⟩ : Grant) ?_ ?_ ⟨by decide, by decide⟩)
      (.unused [] [] rfl))
  · exact brings_challenge (by decide +kernel)
  · exact brings_challenge (by decide +kernel)
  · exact brings_grant (by decide +kernel)
  · exact brings_grant (by decide +kernel)

lemma arrivals_loginEvents {r : LoginRequest} {n : Service.Exchange .nonce} {token : String}
    {l : Service.Exchange (.login r)} (hn : n.request.isSome) (hl : l.request.isSome) :
    arrivals (loginEvents n token l) = [.nonce, .login r] := by
  simp [arrivals, loginEvents, List.filterMap_cons, Event.arrived?, hn, hl]

lemma Daemon.Turn.log_take_granted {w : World} {key : PrivateKey} {challenge : Challenge}
    {n : Service.Exchange .nonce} {l : Service.Exchange (.login (.answering key challenge))}
    {grant : Grant} (h : Challenged .sample { w with replies := Reply.login } key challenge n l)
    (hl : l.outcome = some (.ok grant)) :
    (granted.take .sample w).2.log = w.log ++ loginEvents n challenge.token l := by
  have hrun := congrArg (fun e => e.2.log) (Act.logIn_of_granted h hl)
  exact hrun

/-- Two logins that are granted leave different tokens behind, and cannot be told apart. -/
theorem sights_eq_of_alike_granted :
    let start : World := { wallet := Wallet.empty.load .sample }
    let other : Turn := { Turn.granted with replies := Reply.otherLogin }
    (Turn.takeAll .sample [.granted] start).session.token = some "g" ∧
      (Turn.takeAll .sample [other] start).session.token = some "h" ∧
      Turn.sights .sample [.granted] start = Turn.sights .sample [other] start := by
  intro start other
  obtain ⟨n, l, hchallenged, hl, hsent⟩ : ∃ (n : Service.Exchange .nonce)
      (l : Service.Exchange (.login (.answering .sample ⟨"n", "t"⟩))),
      Challenged .sample { start with replies := Reply.login } .sample ⟨"n", "t"⟩ n l ∧
        l.outcome = some (.ok (⟨"g"⟩ : Grant)) ∧ n.request.isSome ∧ l.request.isSome := by
    refine ⟨_, _, ⟨Wallet.readyKey?_load _ _, rfl, ?_, rfl⟩, ?_, ?_, ?_⟩
    all_goals decide +kernel
  have hlog : (Turn.granted.take .sample start).2.log = start.log ++ loginEvents n "t" l :=
    Turn.log_take_granted hchallenged hl
  have hother : Turn.Alike .sample start [.granted] [other] := by
    refine .cons start .granted Reply.otherLogin [] [] _ hlog ?_ (.nil _)
    rw [arrivals_loginEvents hsent.1 hsent.2]
    exact Reply.alike_otherLogin _
  refine ⟨by decide +kernel, by decide +kernel, sights_eq_of_alike hother⟩

end OperatorDaemon
