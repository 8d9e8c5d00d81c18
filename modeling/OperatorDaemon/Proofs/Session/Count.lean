import OperatorDaemon.Proofs.Session.Rules

/-!
# How many calls are made

An attempt to log in makes two calls at most, and none to a module. A call that may be made again takes four
calls at most.
-/

namespace OperatorDaemon

open OperatorDaemon.Module (Operation)
open Service (Call Error Exchange LoginRequest)

namespace Event

/-- Whether an event is the start of an attempt to log in. -/
def isLoginStart : Event → Bool
  | loginStarted _ => true
  | called _ _ _ => false

/-- Whether an event is a call. -/
def isCall : Event → Bool
  | called _ _ _ => true
  | loginStarted _ => false

/-- Whether an event is a call to a module. -/
def isModuleCall : Event → Bool
  | called c _ _ => c.isModule
  | loginStarted _ => false

/-- Whether an event is a call for a challenge. -/
def isNonceCall : Event → Bool
  | called .nonce _ _ => true
  | called _ _ _ | loginStarted _ => false

/-- Whether an event is an answer to a challenge. -/
def isLoginCall : Event → Bool
  | called (.login _) _ _ => true
  | called _ _ _ | loginStarted _ => false

section

variable {c : Call} (token : Option String) (x : Exchange c)

@[simp] lemma isLoginStart_called : (called c token x).isLoginStart = false := rfl

@[simp] lemma isCall_called : (called c token x).isCall = true := rfl

@[simp] lemma isModuleCall_called : (called c token x).isModuleCall = c.isModule := rfl

lemma isNonceCall_of_isModule (h : c.isModule) : (called c token x).isNonceCall = false := by
  cases c <;> first | rfl | cases h

lemma isLoginCall_of_isModule (h : c.isModule) : (called c token x).isLoginCall = false := by
  cases c <;> first | rfl | cases h

end

end Event

/-- Some events are those of one attempt to log in, as far as they can be counted. -/
structure LogInBounds (events : List Event) : Prop where
  start : events.countP Event.isLoginStart = 1
  calls : events.countP Event.isCall ≤ 2
  module : events.countP Event.isModuleCall = 0
  nonce : events.countP Event.isNonceCall ≤ 1
  login : events.countP Event.isLoginCall ≤ 1

namespace LogInBounds

lemma unready (ready : Bool) : LogInBounds [.loginStarted ready] :=
  ⟨rfl, Nat.zero_le _, rfl, Nat.zero_le _, Nat.zero_le _⟩

lemma unchallenged (n : Exchange .nonce) :
    LogInBounds [.loginStarted true, .called .nonce none n] :=
  ⟨rfl, Nat.le_succ 1, rfl, Nat.le_refl 1, Nat.zero_le _⟩

lemma challenged (n : Exchange .nonce) (token : String) {r : LoginRequest}
    (l : Exchange (.login r)) : LogInBounds (loginEvents n token l) :=
  ⟨rfl, Nat.le_refl 2, rfl, Nat.le_refl 1, Nat.le_refl 1⟩

end LogInBounds

lemma LogInFailure.bounds {events : List Event} {e : Error} (h : LogInFailure events e) :
    LogInBounds events := by
  cases h with
  | unready => exact .unready false
  | challengeRefused n e h => exact .unchallenged n
  | walletMissing n challenge r l hn hl => exact .challenged n _ l
  | answerRefused n challenge r l e hn hl hu hw => exact .challenged n _ l

variable {context : Context} {w w' : World}

lemma LogInRule.bounds {result : Option (Except Error Unit)} (h : LogInRule context w result w') :
    ∃ events, w'.log = w.log ++ events ∧ LogInBounds events := by
  cases h with
  | unready h => exact ⟨_, rfl, .unready false⟩
  | challengeDropped key n hkey hn h => exact ⟨_, rfl, .unchallenged n⟩
  | challengeRefused key n e hkey hn h => exact ⟨_, rfl, .unchallenged n⟩
  | answerDropped key challenge n l h hl => exact ⟨_, rfl, .challenged n _ l⟩
  | admitted key challenge n l grant h hl => exact ⟨_, rfl, .challenged n _ l⟩
  | unregistered key challenge n l h hl => exact ⟨_, rfl, .challenged n _ l⟩
  | walletMissing key challenge n l h hl => exact ⟨_, rfl, .challenged n _ l⟩
  | answerRefused key challenge n l e h hl hu hw => exact ⟨_, rfl, .challenged n _ l⟩

/-- To look up the status takes one attempt to log in at most. -/
lemma LookUpRule.bounds {result : Option (Status × Option Error)}
    (h : LookUpRule context w result w') :
    ∃ events, w'.log = w.log ++ events ∧ events.countP Event.isLoginStart ≤ 1 ∧
      events.countP Event.isCall ≤ 2 ∧ events.countP Event.isModuleCall = 0 := by
  have hlogin {result : Option (Except Error Unit)} {w' : World}
      (h : LogInRule context w result w') :
      ∃ events, w'.log = w.log ++ events ∧ events.countP Event.isLoginStart ≤ 1 ∧
        events.countP Event.isCall ≤ 2 ∧ events.countP Event.isModuleCall = 0 := by
    obtain ⟨events, hlog, hbounds⟩ := h.bounds
    exact ⟨events, hlog, Nat.le_of_eq hbounds.start, hbounds.calls, hbounds.module⟩
  cases h with
  | known h => exact ⟨[], by simp, Nat.zero_le 1, Nat.zero_le 2, rfl⟩
  | dropped w' h hrule => exact hlogin hrule
  | completed w' h hrule => exact hlogin hrule
  | failed e w' h hrule => exact hlogin hrule

/-- A call takes four calls at most. -/
lemma RequestRule.calls_le {c : Call} {result : Option (Except Error c.Data)}
    (h : RequestRule c context w result w') :
    ∃ events, w'.log = w.log ++ events ∧ events.countP Event.isCall ≤ 4 := by
  -- The first call and the attempt to log in after it.
  have hlogin {x : Exchange c} {login : Option (Except Error Unit)} {w' : World}
      (h : LogInRule context (w.advance [.called c (c.tokenIn w.session) x] x.rest w.session)
        login w') :
      ∃ events, w'.log = w.log ++ events ∧ events.countP Event.isCall ≤ 3 := by
    obtain ⟨events, hlog, hbounds⟩ := h.bounds
    refine ⟨.called c (c.tokenIn w.session) x :: events, by simp [hlog], ?_⟩
    rw [List.countP_cons_of_pos rfl]
    exact Nat.succ_le_succ hbounds.calls
  cases h with
  | once x hx h => exact ⟨_, rfl, by simp⟩
  | loginDropped x e w' hx h he hrule =>
    exact (hlogin hrule).imp fun _ h => ⟨h.1, Nat.le_succ_of_le h.2⟩
  | loginFailed x e e' w' hx h he hrule =>
    exact (hlogin hrule).imp fun _ h => ⟨h.1, Nat.le_succ_of_le h.2⟩
  | again x x' e w' hx h he hrule hx' =>
    obtain ⟨events, hlog, hcalls⟩ := hlogin hrule
    refine ⟨events ++ [.called c (c.tokenIn w'.session) x'], by simp [hlog], ?_⟩
    rw [List.countP_append]
    exact Nat.add_le_add hcalls (Nat.le_refl 1)

end OperatorDaemon
