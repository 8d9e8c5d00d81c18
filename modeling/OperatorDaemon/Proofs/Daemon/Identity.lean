import Mathlib.Data.List.Induction
import OperatorDaemon.Proofs.Session.Admission

/-!
# Which node the registration status is about

A login is one of the key that the wallet is ready with, but the session does not remember which key that was.
So what is known about the registration is about the node of the wallet as long as the wallet is the one that
the last grant was for, and no longer.
-/

namespace OperatorDaemon

open Daemon (Task Turn)
open Service (Client Connection Error Reply)

/-! ### The key of a login -/

/-- Whether an event, if it is the answer to a challenge, is the answer of the key that a wallet is ready
with. -/
def Event.IsAnswerOf (wallet : Wallet) : Event → Prop
  | .called (.login r) _ _ =>
      ∃ key challenge, wallet.readyKey? = some key ∧ r = .answering key challenge
  | .called _ _ _ | .loginStarted _ => True

lemma Event.isAnswerOf_of_isModule {c : Service.Call} (hc : c.isModule) (wallet : Wallet)
    (token : Option String) (x : Service.Exchange c) : (called c token x).IsAnswerOf wallet := by
  cases c <;> first | exact trivial | cases hc

/-- The law that the wallet stays as it is, and that challenges are answered by its key. -/
def Wallet.answering : Law where
  rel _ p _ p' := p'.wallet = p.wallet ∧
    ∃ events, p'.log = p.log ++ events ∧ ∀ e ∈ events, e.IsAnswerOf p.wallet
  refl _ p := ⟨rfl, GrowsBy.refl _ p.log⟩
  trans := by
    rintro context p₁ p₂ p₃ completed ⟨hwallet, hgrows⟩ ⟨hwallet', hgrows'⟩
    rw [hwallet] at hgrows'
    exact ⟨hwallet'.trans hwallet, GrowsBy.trans hgrows hgrows'⟩

lemma Wallet.answering_advance {context : Context} {w : World} {completed : Bool}
    {events : List Event} {s : Session} (h : ∀ e ∈ events, e.IsAnswerOf w.wallet) :
    Wallet.answering.rel context w.past completed (w.past.advance events s) :=
  ⟨rfl, events, rfl, h⟩

lemma Challenged.isAnswerOf {context : Context} {w : World} {key : PrivateKey}
    {challenge : Service.Challenge} {n : Service.Exchange .nonce}
    {l : Service.Exchange (.login (.answering key challenge))}
    (h : Challenged context w key challenge n l) :
    ∀ e ∈ loginEvents n challenge.token l, e.IsAnswerOf w.wallet := by
  simp only [loginEvents, List.forall_mem_cons]
  exact ⟨trivial, trivial, ⟨key, challenge, h.ready, rfl⟩, by simp⟩

/-- The steps of operations leave the wallet as it is, and answer challenges with its key. -/
theorem Wallet.stepsObey_answering : Wallet.answering.StepsObey where
  logIn := by
    rintro context w result w' hrule
    cases hrule with
    | unready h => exact answering_advance (by simp [Event.IsAnswerOf])
    | challengeDropped key n hkey hn h => exact answering_advance (by simp [Event.IsAnswerOf])
    | challengeRefused key n e hkey hn h => exact answering_advance (by simp [Event.IsAnswerOf])
    | answerDropped key challenge n l h hl => exact answering_advance h.isAnswerOf
    | admitted key challenge n l grant h hl => exact answering_advance h.isAnswerOf
    | unregistered key challenge n l h hl => exact answering_advance h.isAnswerOf
    | walletMissing key challenge n l h hl => exact answering_advance h.isAnswerOf
    | answerRefused key challenge n l e h hl hu hw => exact answering_advance h.isAnswerOf
  call := by
    intro context w c x hc hx
    exact answering_advance (by simpa using Event.isAnswerOf_of_isModule hc w.wallet _ x)
  registered := by
    intro context w r x hx h
    exact answering_advance (by simp [Event.IsAnswerOf])
  refused := by
    intro context w r x e hx h
    exact answering_advance (by simp [Event.IsAnswerOf])

/-- The law that nothing is recorded. -/
def Law.recordingNothing : Law where
  rel _ p _ p' := p'.log = p.log
  refl _ _ := rfl
  trans h h' := h'.trans h

/-- A turn either changes the wallet and records nothing, or leaves the wallet as it is and answers challenges
with its key. -/
lemma Daemon.Turn.isAnswerOf_take (client : Client) (t : Turn) (w : World) :
    ∃ events, (t.take client w).2.log = w.log ++ events ∧ (∀ e ∈ events, e.IsAnswerOf w.wallet) ∧
      (t.task.changesWallet ∧ events = [] ∨ (t.take client w).2.wallet = w.wallet) := by
  cases ht : t.task.changesWallet with
  | true =>
    have hignores : Law.recordingNothing.IgnoresWallet := fun _ _ _ => rfl
    have hlog : (t.take client w).2.log = w.log :=
      Task.obeys_of_changesWallet hignores ht ⟨client, t.connection, t.now⟩
        { w with replies := t.replies }
    exact ⟨[], by simpa using hlog, by simp, .inl ⟨rfl, rfl⟩⟩
  | false =>
    obtain ⟨hwallet, events, hlog, hevents⟩ :=
      Wallet.stepsObey_answering.obeys_task (t := t.task) (fun h => by simp [ht] at h)
        ⟨client, t.connection, t.now⟩ { w with replies := t.replies }
    exact ⟨events, hlog, hevents, .inr hwallet⟩

/-! ### The turn of the last grant -/

/-- The last login of a run that the service has granted, with the turn in which it was made: what had come
before it goes beyond the turns before that one, and it has come when that turn is over. -/
structure Admission (client : Client) (turns : List Turn) (start : World) extends
    LastGrant (Turn.takeAll client turns start).log where
  earlier : List Turn
  turn : Turn
  later : List Turn
  turns_eq : turns = earlier ++ turn :: later
  not_earlier : (Turn.takeAll client earlier start).log <+: before
  not_later : before ++ [.called (.login request) token exchange] <+:
    (Turn.takeAll client (earlier ++ [turn]) start).log

/-- The wallet with which the last login that the service has granted was made, and what has become of it. -/
structure Admission.Standing {client : Client} {turns : List Turn} {start : World}
    (a : Admission client turns start) : Prop where
  answered : (Event.called (.login a.request) a.token a.exchange).IsAnswerOf
    (Turn.takeAll client a.earlier start).wallet
  kept : (∀ t ∈ a.later, t.task.changesWallet = false) →
    (Turn.takeAll client turns start).wallet = (Turn.takeAll client a.earlier start).wallet

namespace Admission

variable {client : Client} {turns : List Turn} {start : World}

/-- The last grant has been made in the last turn. -/
lemma exists_of_granted {t : Turn} {events : List Event}
    (hlog : (t.take client (Turn.takeAll client turns start)).2.log =
      (Turn.takeAll client turns start).log ++ events)
    (hanswers : ∀ e ∈ events, e.IsAnswerOf (Turn.takeAll client turns start).wallet)
    (hwallet : (t.take client (Turn.takeAll client turns start)).2.wallet =
      (Turn.takeAll client turns start).wallet)
    (hgranted : Verdict.registered ∈ verdicts events) :
    ∃ a : Admission client (turns ++ [t]) start, a.Standing := by
  obtain ⟨g⟩ := LastGrant.exists_of_mem hgranted
  rw [← Turn.takeAll_concat] at hlog hwallet
  refine ⟨{ g.prepend hlog with
      earlier := turns, turn := t, later := [], turns_eq := rfl
      not_earlier := List.prefix_append _ _, not_later := (g.prepend hlog).isPrefix }, ?_,
    fun _ => hwallet⟩
  exact hanswers _ g.mem

/-- The last grant stays the last one over a turn in which there is none. -/
lemma exists_of_quiet {t : Turn} {events : List Event}
    (hlog : (t.take client (Turn.takeAll client turns start)).2.log =
      (Turn.takeAll client turns start).log ++ events)
    (hwallet : t.task.changesWallet = false →
      (t.take client (Turn.takeAll client turns start)).2.wallet =
        (Turn.takeAll client turns start).wallet)
    (hquiet : Verdict.registered ∉ verdicts events) {a : Admission client turns start}
    (ha : a.Standing) : ∃ a : Admission client (turns ++ [t]) start, a.Standing := by
  rw [← Turn.takeAll_concat] at hlog hwallet
  have hnone : ∀ e ∈ events, e.verdict? ≠ some .registered :=
    fun e he h => hquiet (List.mem_filterMap.mpr ⟨e, he, h⟩)
  refine ⟨{ a.toLastGrant.append hlog hnone with
      earlier := a.earlier, turn := a.turn, later := a.later ++ [t]
      turns_eq := by rw [← List.cons_append, ← List.append_assoc, ← a.turns_eq]
      not_earlier := a.not_earlier, not_later := a.not_later }, ha.answered, fun hkept => ?_⟩
  rw [hwallet (hkept t (by simp))]
  exact ha.kept fun t' ht' => hkept t' (List.mem_append_left _ ht')

/-- A node that has come to be believed to be registered has been granted a login by the key with which its
wallet was ready. -/
theorem exists_of_registered (hstart : start.session.status ≠ .registered)
    (h : (Turn.takeAll client turns start).session.status = .registered) :
    ∃ a : Admission client turns start, a.Standing := by
  induction turns using List.reverseRecOn with
  | nil => exact absurd h hstart
  | append_singleton turns t ih =>
    rw [Turn.takeAll_concat] at h
    obtain ⟨events, hlog, hanswers, hwallet⟩ :=
      t.isAnswerOf_take client (Turn.takeAll client turns start)
    obtain ⟨events', hlog', hstatus, -⟩ := t.session_take client (Turn.takeAll client turns start)
    obtain rfl : events' = events := List.append_cancel_left (hlog'.symm.trans hlog)
    by_cases hgranted : Verdict.registered ∈ verdicts events'
    · refine exists_of_granted hlog hanswers (hwallet.resolve_left ?_) hgranted
      rintro ⟨-, rfl⟩
      cases hgranted
    · have hbefore : (Turn.takeAll client turns start).session.status = .registered := by
        by_contra hother
        exact hgranted (Status.registered_mem_of_foldl (hstatus ▸ h) hother)
      obtain ⟨a, ha⟩ := ih hbefore
      refine exists_of_quiet hlog (fun ht => hwallet.resolve_left ?_) hgranted ha
      simp [ht]

end Admission

/-! ### Looks at the registration status -/

/-- A look at the registration status, on some connection and at some time. -/
abbrev Daemon.Turn.look (connection : Connection) (replies : List Reply) (now : String) : Turn :=
  { task := .lookUp, connection, replies, now }

lemma Daemon.Turn.status_take_look {client : Client} {w : World} {connection : Connection}
    {replies : List Reply} {now : String} {status : Status} {error? : Option Error}
    (h : ((look connection replies now).take client w).1 = some (status, error?)) :
    ((look connection replies now).take client w).2.session.status = status := by
  have hrule : LookUpRule ⟨client, connection, now⟩ { w with replies } (some (status, error?))
      (Act.registrationStatus ⟨client, connection, now⟩ { w with replies }).2 :=
    .of_registrationStatus (Prod.ext h rfl)
  exact hrule.status_eq

lemma Wallet.isReady_congr {wallet wallet' : Wallet} (hkey : wallet'.key = wallet.key)
    (haddress : wallet'.nodeAddress = wallet.nodeAddress) : wallet'.isReady = wallet.isReady := by
  simp [isReady, status, Status.isReady, address, hkey, haddress]

/-- Whenever a look at the registration status tells that the node is registered, the service has granted a
login, the wallet was ready when the last grant was made, and the address that was sent was that of the
wallet. The wallet is still the same unless it has been changed since. If it has the same key and the same
node address, it is ready now, and its address is the one that was sent. -/
theorem isReady_of_look {client : Client} {turns : List Turn} {wallet : Wallet} {disk : Disk}
    {connection : Connection} {replies : List Reply} {now : String} {error? : Option Error}
    (h : ((Turn.look connection replies now).take client
      (Turn.takeAll client turns { wallet, disk })).1 = some (Status.registered, error?)) :
    let run := turns ++ [Turn.look connection replies now]
    let w' := Turn.takeAll client run { wallet, disk }
    ∃ a : Admission client run { wallet, disk },
      let w := Turn.takeAll client a.earlier { wallet, disk }
      (w.wallet.isReady ∧ a.request.address = w.wallet.address.checksummed) ∧
        ((∀ t ∈ a.later, t.task.changesWallet = false) → w'.wallet = w.wallet) ∧
        (w'.wallet.key = w.wallet.key → w'.wallet.nodeAddress = w.wallet.nodeAddress →
          w'.wallet.isReady ∧ a.request.address = w'.wallet.address.checksummed) := by
  intro run w'
  have hstatus : w'.session.status = .registered := by
    rw [show w' = _ from Turn.takeAll_concat ..]
    exact Turn.status_take_look h
  obtain ⟨a, ha⟩ := Admission.exists_of_registered (by simp) hstatus
  obtain ⟨key, challenge, hanswers, hrequest⟩ := ha.answered
  obtain ⟨hready, haddress⟩ := Wallet.readyKey?_eq_some hanswers
  have hsent : a.request.address = key.address.checksummed := by rw [hrequest]; rfl
  refine ⟨a, ⟨hready, by rw [hsent, haddress]⟩, ha.kept, fun hkey hnode => ?_⟩
  constructor
  · rwa [Wallet.isReady_congr hkey hnode]
  · rw [hsent, ← haddress, Wallet.address, Wallet.address, hkey]

/-- After a login that is granted, a look tells that the node is registered, and the wallet is ready. -/
theorem isReady_of_look_granted :
    let run := [Turn.granted, Turn.look .sample [] "later"]
    let w' := Turn.takeAll .sample run { wallet := Wallet.empty.load .sample }
    ((Turn.look .sample [] "later").take .sample
        (Turn.takeAll .sample [.granted] { wallet := Wallet.empty.load .sample })).1 =
          some (Status.registered, none) ∧
      ∃ a : Admission .sample run { wallet := Wallet.empty.load .sample },
        w'.wallet.isReady ∧ a.request.address = w'.wallet.address.checksummed := by
  have hlook : ((Turn.look .sample [] "later").take .sample
      (Turn.takeAll .sample [.granted] { wallet := Wallet.empty.load .sample })).1 =
        some (Status.registered, none) := by decide +kernel
  obtain ⟨a, -, hkept, hnow⟩ := isReady_of_look hlook
  have hquiet : ∀ t ∈ a.later, t.task.changesWallet = false := by
    intro t ht
    have hrun : t ∈ [Turn.granted, Turn.look .sample [] "later"] := by
      rw [show [Turn.granted, Turn.look .sample [] "later"] = _ from a.turns_eq]
      exact List.mem_append_right _ (List.mem_cons_of_mem _ ht)
    obtain rfl | rfl : t = Turn.granted ∨ t = Turn.look .sample [] "later" := by simpa using hrun
    · rfl
    · rfl
  exact ⟨hlook, a, hnow (by rw [hkept hquiet]) (by rw [hkept hquiet])⟩

/-- After a login that is granted and the loss of the key, a look still tells that the node is registered, but
the wallet is not ready. -/
theorem not_isReady_of_look_unloaded :
    let turns := [Turn.granted, { task := .unload, connection := .sample, now := "later" }]
    let w := Turn.takeAll .sample turns { wallet := Wallet.empty.load .sample }
    ((Turn.look .sample [] "later").take .sample w).1 = some (Status.registered, none) ∧
      ((Turn.look .sample [] "later").take .sample w).2.wallet.isReady = false := by
  decide +kernel

end OperatorDaemon
