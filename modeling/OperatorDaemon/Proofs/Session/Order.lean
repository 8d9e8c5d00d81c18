import OperatorDaemon.Proofs.Session.Law

/-!
# The order of events

The calls of an attempt to log in stand in the log one directly after the other: its start, the call for
a challenge, and the answer to that very challenge. No such call stands anywhere else.
-/

namespace OperatorDaemon

open Daemon (Turn)
open Service (Client Exchange LoginRequest)

/-! ### Events and those before them -/

/-- An event of a log that has grown stands in what it was before, or in what has been added. -/
lemma Event.split_append {log events before after : List Event} {e : Event}
    (h : log ++ events = before ++ e :: after) :
    (∃ rest, log = before ++ e :: rest) ∨
      ∃ between, before = log ++ between ∧ events = between ++ e :: after := by
  rcases List.append_eq_append_iff.mp h with ⟨between, hbefore, hevents⟩ | ⟨rest, hlog, hrest⟩
  · exact .inr ⟨between, hbefore, hevents⟩
  · cases rest with
    | nil => exact .inr ⟨[], by simpa using hlog.symm, by simpa using hrest.symm⟩
    | cons e' rest =>
      obtain ⟨rfl, -⟩ := List.cons.inj hrest
      exact .inl ⟨rest, hlog⟩

/-- Every event of a log stands in a relation to those before it. -/
def EachAfter (P : List Event → Event → Prop) (log : List Event) : Prop :=
  ∀ before event after, log = before ++ event :: after → P before event

variable {P : List Event → Event → Prop}

lemma eachAfter_nil : EachAfter P [] := by
  intro before event after h
  simp at h

lemma EachAfter.append {log events : List Event} (h : EachAfter P log)
    (hevents : ∀ before event after, events = before ++ event :: after → P (log ++ before) event) :
    EachAfter P (log ++ events) := by
  intro before event after hsplit
  rcases Event.split_append hsplit with ⟨rest, hlog⟩ | ⟨between, rfl, hnew⟩
  · exact h before event rest hlog
  · exact hevents between event after hnew

lemma EachAfter.snoc {log : List Event} {e : Event} (h : EachAfter P log) (he : P log e) :
    EachAfter P (log ++ [e]) := by
  refine h.append fun before event after hsplit => ?_
  rcases List.append_eq_singleton_iff.mp hsplit.symm with ⟨rfl, hlast⟩ | ⟨-, hnone⟩
  · obtain ⟨rfl, -⟩ := List.cons.inj hlast
    rwa [List.append_nil]
  · cases hnone

lemma EachAfter.append_pair {log : List Event} {e e' : Event} (h : EachAfter P log) (he : P log e)
    (he' : P (log ++ [e]) e') : EachAfter P (log ++ [e, e']) := by
  simpa using (h.snoc he).snoc he'

/-- The events of a login that gets as far as the answer. -/
lemma EachAfter.append_loginEvents {log : List Event} {r : LoginRequest} {n : Exchange .nonce}
    {token : String} {l : Exchange (.login r)} (h : EachAfter P log)
    (hstart : P log (.loginStarted true))
    (hn : P (log ++ [.loginStarted true]) (.called .nonce none n))
    (hl : P (log ++ [.loginStarted true, .called .nonce none n]) (.called (.login r) (some token) l)) :
    EachAfter P (log ++ loginEvents n token l) := by
  simpa [loginEvents] using (h.append_pair hstart hn).snoc hl

/-! ### Logging in -/

/-- Whether an event may stand behind others: a call for a challenge directly follows the start of an
attempt to log in, and an answer directly follows the challenge that it answers. -/
def Event.Fits (before : List Event) : Event → Prop
  | .called .nonce token _ => token = none ∧ ∃ rest, before = rest ++ [.loginStarted true]
  | .called (.login r) token _ => ∃ rest n challenge key,
      before = rest ++ [.loginStarted true, .called .nonce none n] ∧
      n.outcome = some (.ok challenge) ∧ r = .answering key challenge ∧
      token = some challenge.token
  | .called _ _ _ | .loginStarted _ => True

lemma Event.fits_of_isModule {c : Service.Call} (hc : c.isModule) (before : List Event)
    (token : Option String) (x : Exchange c) : Event.Fits before (.called c token x) := by
  cases c <;> first | exact trivial | cases hc

/-- An event that may stand behind others may stand behind more. -/
lemma Event.Fits.prepend {before : List Event} {e : Event} (h : e.Fits before) (front : List Event) :
    e.Fits (front ++ before) := by
  cases e with
  | loginStarted ready => trivial
  | called c token x =>
    cases c with
    | nonce =>
      obtain ⟨htoken, rest, rfl⟩ := h
      exact ⟨htoken, front ++ rest, by rw [List.append_assoc]⟩
    | login r =>
      obtain ⟨rest, n, challenge, key, rfl, hn, hr, htoken⟩ := h
      exact ⟨front ++ rest, n, challenge, key, by rw [List.append_assoc], hn, hr, htoken⟩
    | _ => trivial

lemma Challenged.fits {context : Context} {w : World} {key : PrivateKey}
    {challenge : Service.Challenge} {n : Exchange .nonce}
    {l : Exchange (.login (.answering key challenge))} (h : Challenged context w key challenge n l) :
    EachAfter Event.Fits (loginEvents n challenge.token l) :=
  eachAfter_nil.append_loginEvents trivial ⟨rfl, [], rfl⟩ ⟨[], n, challenge, key, rfl, h.came, rfl, rfl⟩

/-- The law that what is recorded is in order. -/
def Law.ordering : Law where
  rel _ p _ p' := ∃ events, p'.log = p.log ++ events ∧ EachAfter Event.Fits events
  refl _ _ := ⟨[], by simp, eachAfter_nil⟩
  trans := by
    rintro context p₁ p₂ p₃ completed ⟨es, hlog, hes⟩ ⟨es', hlog', hes'⟩
    refine ⟨es ++ es', by rw [hlog', hlog, List.append_assoc], hes.append ?_⟩
    exact fun before e after h => (hes' before e after h).prepend es

/-- What the steps of operations record is in order. -/
theorem Law.holds_ordering : Law.ordering.Holds where
  logIn := by
    rintro context w result w' hrule
    have hunchallenged (n : Exchange .nonce) :
        EachAfter Event.Fits [.loginStarted true, .called .nonce none n] :=
      eachAfter_nil.append_pair trivial ⟨rfl, [], rfl⟩
    cases hrule with
    | unready h => exact ⟨_, rfl, eachAfter_nil.snoc trivial⟩
    | challengeDropped key n hkey hn h => exact ⟨_, rfl, hunchallenged n⟩
    | challengeRefused key n e hkey hn h => exact ⟨_, rfl, hunchallenged n⟩
    | answerDropped key challenge n l h hl => exact ⟨_, rfl, h.fits⟩
    | admitted key challenge n l grant h hl => exact ⟨_, rfl, h.fits⟩
    | unregistered key challenge n l h hl => exact ⟨_, rfl, h.fits⟩
    | walletMissing key challenge n l h hl => exact ⟨_, rfl, h.fits⟩
    | answerRefused key challenge n l e h hl hu hw => exact ⟨_, rfl, h.fits⟩
  call := by
    intro context w c x hc hx
    exact ⟨_, rfl, eachAfter_nil.snoc (Event.fits_of_isModule hc _ _ _)⟩
  registered := by
    intro context w r x hx h
    exact ⟨_, rfl, eachAfter_nil.snoc trivial⟩
  refused := by
    intro context w r x e hx h
    exact ⟨_, rfl, eachAfter_nil.snoc trivial⟩
  wallet := fun _ _ _ => ⟨[], by simp, eachAfter_nil⟩

lemma EachAfter.fits_takeAll {w : World} (h : EachAfter Event.Fits w.log) (client : Client)
    (turns : List Turn) : EachAfter Event.Fits (Turn.takeAll client turns w).log := by
  induction turns generalizing w with
  | nil => exact h
  | cons t turns ih =>
    obtain ⟨events, hlog, hevents⟩ := Law.holds_ordering.rel_take client t w
    rw [World.past_log, World.past_log] at hlog
    refine ih (w := (t.take client w).2) ?_
    rw [hlog]
    exact h.append fun before e after hsplit => (hevents before e after hsplit).prepend w.log

/-- The log of every run is in order. -/
theorem Event.fits_takeAll (client : Client) (turns : List Turn) (wallet : Wallet) (disk : Disk) :
    EachAfter Event.Fits (Turn.takeAll client turns { wallet, disk }).log :=
  EachAfter.fits_takeAll (w := { wallet, disk }) eachAfter_nil client turns

end OperatorDaemon
