import OperatorDaemon.Proofs.Api.Gate
import OperatorDaemon.Proofs.Session.Verdict

/-!
# A node that the service does not know stays unregistered

Once a login has found the node to be unregistered, the daemon does not log in again of its own accord: a look
at the registration status stops at what is known, and the modules are out of reach. Only a registration that
the service accepts leads out of this. Until then the session stays as it is, and nothing is sent to the
service but the attempts to register the node.
-/

namespace OperatorDaemon

open Daemon (Task Turn)
open Service (Client Error)

/-! ### Registrations in the log -/

/-- Whether an event is a registration that the service accepts. -/
def Event.IsAcceptance : Event → Prop
  | .called (.nodeAddress r) token x => ∃ (context : Context) (replies : List Service.Reply),
      x = context.exchange (.nodeAddress r) token replies ∧ context.Accepts r token replies
  | .called _ _ _ | .loginStarted _ => False

/-- Whether an event is a registration, whose request is that of a registration if it has been sent. -/
def Event.IsRegistration (client : Client) : Event → Prop
  | .called (.nodeAddress r) token x =>
      ∀ q, x.request = some q → client.request (.nodeAddress r) token = .ok q
  | .called _ _ _ | .loginStarted _ => False

section

variable {context : Context} {r : Service.NodeAddressRequest} {token : Option String}
  {replies : List Service.Reply} {x : Service.Exchange (.nodeAddress r)}

lemma Event.isAcceptance_called (hx : x = context.exchange _ token replies) :
    (called _ token x).IsAcceptance ↔ ∃ data, x.outcome = some (.ok data) := by
  constructor
  · rintro ⟨context', replies', hx', haccepts⟩
    rw [hx']
    exact Context.exists_outcome_ok.mpr haccepts
  · intro h
    exact ⟨context, replies, hx, Context.exists_outcome_ok.mp (hx ▸ h)⟩

/-- A registration that is accepted tells nothing about the node yet. -/
lemma Event.IsAcceptance.verdict?_eq_none {e : Event} (h : e.IsAcceptance) : e.verdict? = none := by
  cases e with
  | loginStarted ready => cases h
  | called c token x =>
    cases c with
    | nodeAddress r =>
      obtain ⟨context, replies, rfl, haccepts⟩ := h
      obtain ⟨data, hdata⟩ := Context.exists_outcome_ok.mpr haccepts
      simp [verdict?, hdata]
    | _ => cases h

lemma Event.isRegistration_called (hx : x = context.exchange _ token replies) :
    (called _ token x).IsRegistration context.client :=
  fun _ hq => Context.request_of_exchange (hx ▸ hq)

end

/-! ### Looking and not logging in -/

namespace Act

variable {context : Context} {w : World}

lemma registrationStatus_of_unregistered (h : w.session.status = .unregistered) :
    registrationStatus context w = (some (.unregistered, none), w) := by
  rw [registrationStatus_of_isKnown (by rw [h]; rfl), h]

lemma requireRegistered_of_unregistered (h : w.session.status = .unregistered) :
    requireRegistered context w = (some (.error .notRegistered), w) := by
  simp [Api.requireRegistered_eq, registrationStatus_of_unregistered h, Api.judge]

lemma runGated_of_unregistered (h : w.session.status = .unregistered) (o : Module.Operation) :
    (Api.runGated o context w).2 = w := by
  rw [Api.runGated, run_bind, requireWallet, run_bind, run_world]
  dsimp only [run_pure]
  cases Requirement.checkWallet w.walletStatus with
  | error requirement => rfl
  | ok _ => simp [run_bind, requireRegistered_of_unregistered h]

end Act

/-! ### Steps -/

/-- From a node that the service does not know on: unless a registration is accepted, the session stays as it
is, and all that is done is to try to register the node. -/
def Standstill (client : Client) (p p' : Past) : Prop :=
  ∃ events, p'.log = p.log ++ events ∧
    (p.session.status = .unregistered → (∀ e ∈ events, ¬ e.IsAcceptance) →
      p'.session = p.session ∧ ∀ e ∈ events, e.IsRegistration client)

namespace Standstill

variable {client : Client} {p p₁ p₂ p₃ : Past}

lemma refl (client : Client) (p : Past) : Standstill client p p := ⟨[], by simp⟩

lemma trans (h : Standstill client p₁ p₂) (h' : Standstill client p₂ p₃) :
    Standstill client p₁ p₃ := by
  obtain ⟨events, hlog, hkept⟩ := h
  obtain ⟨events', hlog', hkept'⟩ := h'
  refine ⟨events ++ events', by rw [hlog', hlog, List.append_assoc], fun hstatus hrefused => ?_⟩
  obtain ⟨hsession, hevents⟩ := hkept hstatus fun e he => hrefused e (List.mem_append_left _ he)
  obtain ⟨hsession', hevents'⟩ := hkept' (hsession ▸ hstatus)
    fun e he => hrefused e (List.mem_append_right _ he)
  refine ⟨hsession'.trans hsession, fun e he => ?_⟩
  exact (List.mem_append.mp he).elim (hevents e) (hevents' e)

/-- Standing still as a law. -/
def law : Law where
  rel context p _ p' := Standstill context.client p p'
  refl context p := refl context.client p
  trans := trans

/-- What does nothing to a node that the service does not know stands still. -/
lemma obeys_of_idle {α : Type} {x : Act α} (hgrows : x.Obeys Verdict.law)
    (hidle : ∀ context w, w.session.status = .unregistered → (x context w).2 = w) :
    x.Obeys law := by
  intro context w
  by_cases hstatus : w.session.status = .unregistered
  · rw [hidle context w hstatus]
    exact refl context.client w.past
  · obtain ⟨events, hlog, -⟩ := hgrows context w
    exact ⟨events, hlog, fun h => absurd h hstatus⟩

/-! ### Operations -/

lemma obeys_registrationStatus : Act.registrationStatus.Obeys law :=
  obeys_of_idle Verdict.holds_law.obeys_registrationStatus fun _ _ h => by
    rw [Act.registrationStatus_of_unregistered h]

lemma obeys_runGated (o : Module.Operation) : (Api.runGated o).Obeys law :=
  obeys_of_idle (Verdict.holds_law.obeys_runGated o) fun _ _ h => Act.runGated_of_unregistered h o

/-- A registration is the only thing that is done, and the only way out is that it is accepted. -/
lemma obeys_registerKey (key : PrivateKey) (email : String) :
    (Act.registerKey key email).Obeys law := by
  intro context w
  rcases hrun : Act.registerKey key email context w with ⟨result, w'⟩
  cases RegisterRule.of_registerKey hrun with
  | dropped x hx h =>
    refine ⟨[.called _ w.session.token x], rfl, fun _ _ => ⟨rfl, ?_⟩⟩
    simpa using Event.isRegistration_called hx
  | refused x e hx h =>
    refine ⟨[.called _ w.session.token x], rfl, fun hstatus _ => ⟨?_, ?_⟩⟩
    · rw [World.past_session] at hstatus
      simp [Past.advance, Session.withDoubt, hstatus, Status.isKnown]
    · simpa using Event.isRegistration_called hx
  | accepted x data login w' hx h hlogin =>
    obtain ⟨events, hlog, -⟩ := hlogin.bounds
    refine ⟨.called _ w.session.token x :: events, by simp [hlog], fun _ hrefused => ?_⟩
    exact absurd ((Event.isAcceptance_called hx).mpr ⟨data, h⟩) (hrefused _ List.mem_cons_self)

lemma ownObeys_law : law.OwnObeys where
  lookUp := obeys_registrationStatus
  registerKey := obeys_registerKey
  runGated := obeys_runGated

lemma take {t : Turn} (ht : t.task.isOwn) (client : Client) (w : World) :
    Standstill client w.past (t.take client w).2.past :=
  ownObeys_law.obeys_task (fun _ context p _ => refl context.client p) ht
    ⟨client, t.connection, t.now⟩ { w with replies := t.replies }

lemma takeAll {turns : List Turn} (hturns : ∀ t ∈ turns, t.task.isOwn) (client : Client)
    (w : World) : Standstill client w.past (Turn.takeAll client turns w).past := by
  induction turns generalizing w with
  | nil => exact refl client w.past
  | cons t turns ih =>
    rw [Turn.takeAll_cons]
    exact (take (hturns t List.mem_cons_self) client w).trans
      (ih (fun t' ht' => hturns t' (List.mem_cons_of_mem _ ht')) _)

end Standstill

/-- From any state in which the service is believed not to know the node, and in every run of what the daemon
does by itself or for those who ask it to: unless the service accepts a registration, the session stays as it
is, and nothing is done but to try to register the node. -/
theorem session_takeAll_of_unregistered {w : World} (hstatus : w.session.status = .unregistered)
    {turns : List Turn} (hturns : ∀ t ∈ turns, t.task.isOwn) (client : Client) :
    ∃ events, (Turn.takeAll client turns w).log = w.log ++ events ∧
      ((∀ e ∈ events, ¬ e.IsAcceptance) →
        (Turn.takeAll client turns w).session = w.session ∧ ∀ e ∈ events, e.IsRegistration client) := by
  obtain ⟨events, hlog, hkept⟩ := Standstill.takeAll hturns client w
  exact ⟨events, hlog, hkept hstatus⟩

/-- The world of a node that a login has found to be unregistered. -/
def World.unregistered : World where
  wallet := Wallet.empty.load .sample
  session := { token := some "t", status := .unregistered }

/-- A look of the watcher, a registration that is refused because there has been one, and the loss of the
key. -/
def Daemon.Turn.registeredElsewhere : List Turn :=
  [{ task := .lookUp, connection := .sample, now := "noon" },
    { task := .register "a@b", connection := .sample, replies := [.refusing "already_registered"],
      now := "noon" },
    { task := .unload, connection := .sample, now := "noon" }]

/-- A node that turns out to be registered already is believed not to be, as before. -/
theorem session_takeAll_registeredElsewhere :
    World.unregistered.session.status = .unregistered ∧
      (∀ t ∈ Turn.registeredElsewhere, t.task.isOwn) ∧
      let w := Turn.takeAll .sample Turn.registeredElsewhere .unregistered
      (∀ e ∈ w.log, ¬ e.IsAcceptance) ∧ w.requests.length = 1 ∧
        w.session = World.unregistered.session := by
  have hown : ∀ t ∈ Turn.registeredElsewhere, t.task.isOwn := by
    simp [Turn.registeredElsewhere, Task.isOwn]
  have hverdicts : (Turn.takeAll .sample Turn.registeredElsewhere .unregistered).log.all
      fun e => e.verdict?.isSome := by decide +kernel
  have hsent : (Turn.takeAll .sample Turn.registeredElsewhere .unregistered).requests.length = 1 := by
    decide +kernel
  obtain ⟨events, hlog, hkept⟩ :=
    session_takeAll_of_unregistered (w := .unregistered) rfl hown .sample
  have hrefused : ∀ e ∈ (Turn.takeAll .sample Turn.registeredElsewhere .unregistered).log,
      ¬ e.IsAcceptance := by
    intro e he haccepted
    have hverdict := List.all_eq_true.mp hverdicts e he
    simp [haccepted.verdict?_eq_none] at hverdict
  rw [show World.unregistered.log = [] from rfl, List.nil_append] at hlog
  exact ⟨rfl, hown, hrefused, hsent, (hkept (hlog ▸ hrefused)).1⟩

end OperatorDaemon
