import OperatorDaemon.Proofs.Api.Report
import OperatorDaemon.Proofs.Daemon.Refusal

/-!
# Looking up the registration status

A look tells a status that is known, or why the attempt to log in has failed, and never both or neither. All that
rests on a look, be it the gate in front of the modules or the answer to a request for the status, can rely on it.
-/

namespace OperatorDaemon

open Service (Call Challenge Error Exchange LoginRequest Reply)

/-! ### Attempts to log in -/

/-- Some events are those of one attempt to log in with a wallet. Nothing is called if the wallet is not ready;
otherwise a challenge is called for, and answered if it comes. -/
inductive IsLogInAttempt (wallet : Wallet) : List Event → Prop where
  /-- The wallet is not ready. -/
  | unready (h : wallet.isReady = false) : IsLogInAttempt wallet [.loginStarted false]
  /-- No challenge comes. -/
  | unchallenged (h : wallet.isReady) (n : Exchange .nonce)
      (hn : ∀ challenge, n.outcome ≠ some (.ok challenge)) :
      IsLogInAttempt wallet [.loginStarted true, .called .nonce none n]
  /-- A challenge comes, and it is answered. -/
  | challenged (h : wallet.isReady) (n : Exchange .nonce) (challenge : Challenge)
      (hn : n.outcome = some (.ok challenge)) (r : LoginRequest) (l : Exchange (.login r)) :
      IsLogInAttempt wallet (loginEvents n challenge.token l)

lemma Wallet.isReady_eq_false {wallet : Wallet} (h : wallet.readyKey? = none) : wallet.isReady = false := by
  rw [← Bool.not_eq_true]
  intro hready
  simpa [h] using isSome_readyKey? hready

lemma Wallet.isReady_of_readyKey? {wallet : Wallet} {key : PrivateKey} (h : wallet.readyKey? = some key) :
    wallet.isReady := (readyKey?_eq_some h).1

/-- To log in takes one attempt. -/
lemma LogInRule.isLogInAttempt {context : Context} {w w' : World} {result : Option (Except Error Unit)}
    (h : LogInRule context w result w') :
    ∃ events, w'.log = w.log ++ events ∧ IsLogInAttempt w.wallet events := by
  have hchallenged {key : PrivateKey} {challenge : Challenge} {n : Exchange .nonce}
      {l : Exchange (.login (.answering key challenge))} (h : Challenged context w key challenge n l) :
      IsLogInAttempt w.wallet (loginEvents n challenge.token l) :=
    .challenged (Wallet.isReady_of_readyKey? h.ready) n challenge h.came _ l
  cases h with
  | unready hkey => exact ⟨_, rfl, .unready (Wallet.isReady_eq_false hkey)⟩
  | challengeDropped key n hkey hn h =>
    exact ⟨_, rfl, .unchallenged (Wallet.isReady_of_readyKey? hkey) n (by simp [h])⟩
  | challengeRefused key n e hkey hn h =>
    exact ⟨_, rfl, .unchallenged (Wallet.isReady_of_readyKey? hkey) n (by simp [h])⟩
  | answerDropped key challenge n l h hl => exact ⟨_, rfl, hchallenged h⟩
  | admitted key challenge n l grant h hl => exact ⟨_, rfl, hchallenged h⟩
  | unregistered key challenge n l h hl => exact ⟨_, rfl, hchallenged h⟩
  | walletMissing key challenge n l h hl => exact ⟨_, rfl, hchallenged h⟩
  | answerRefused key challenge n l e h hl hu hw => exact ⟨_, rfl, hchallenged h⟩

/-! ### What a look tells -/

lemma Status.isKnown_iff {s : Status} : s.isKnown ↔ s = .registered ∨ s = .unregistered := by
  cases s <;> simp [isKnown]

namespace Act

variable {context : Context} {w : World}

/-- A look at a status that is not known is an attempt to log in. It tells the status after it, and the error if
the attempt fails. -/
lemma registrationStatus_of_not_isKnown (h : w.session.status.isKnown = false) :
    registrationStatus context w =
      ((logIn context w).1.map fun
        | .ok () => ((logIn context w).2.session.status, none)
        | .error e => ((logIn context w).2.session.status, some e),
      (logIn context w).2) := by
  simp only [registrationStatus, run_bind, run_world, h, Bool.false_eq_true, if_false]
  match logIn context w with
  | (none, w') => rfl
  | (some (.ok ()), w') => rfl
  | (some (.error e), w') => rfl

/-- An error that a look tells is the failure of an attempt to log in. -/
lemma logIn_of_registrationStatus {status : Status} {e : Error}
    (h : (registrationStatus context w).1 = some (status, some e)) :
    (logIn context w).1 = some (.error e) := by
  cases hknown : w.session.status.isKnown with
  | true =>
    rw [registrationStatus_of_isKnown hknown] at h
    cases h
  | false =>
    rw [registrationStatus_of_not_isKnown hknown] at h
    match hlogin : (logIn context w).1 with
    | none => simp [hlogin] at h
    | some (.ok ()) => simp [hlogin] at h
    | some (.error e') =>
      simp only [hlogin, Option.map_some, Option.some.injEq, Prod.mk.injEq] at h
      rw [h.2]

end Act

lemma append_ne_empty {s : String} (h : s ≠ "") (t : String) : s ++ t ≠ "" := by
  rw [Ne, String.append_eq_empty_iff]
  exact fun hst => h hst.1

/-- Every error says something. -/
lemma Service.Error.message_ne_empty (e : Error) : e.message ≠ "" := by
  cases e with
  | invalidEmail text | invalidInput text | transport text | invalidResponse text =>
    exact append_ne_empty (by decide) text
  | api status code text =>
    have hstatus := append_ne_empty (s := "NodeSet returned ") (by decide) (toString status)
    exact append_ne_empty (append_ne_empty (append_ne_empty (append_ne_empty hstatus _) _) _) _
  | during operation e => exact append_ne_empty (append_ne_empty (append_ne_empty (by decide) _) _) _
  | _ => decide

/-- An attempt to log in never fails because a reply makes no sense: it says what it was doing then. -/
lemma LogInFailure.ne_invalidResponse {events : List Event} {e : Error} (h : LogInFailure events e)
    (text : String) : e ≠ .invalidResponse text := by
  cases h <;> exact Error.noConfusion

namespace Api

lemma judge_eq_unknownStatus {status status' : Status} {e : Error} {error? : Option Error}
    (h : judge (status, error?) = .error (.unknownStatus status' e))
    (hknown : status.isKnown = error?.isNone) :
    status' = .unknown ∧ error? = some e := by
  cases status with
  | unknown =>
    cases error? with
    | none => cases hknown
    | some e' =>
      cases h
      exact ⟨rfl, rfl⟩
  | noWallet | unregistered | registered => cases h

/-- The answer to a request for the status tells the status and a text, and there is one exactly if the status is
unknown. -/
lemma exists_statusResponse_eq {status : Status} {error? : Option Error}
    (hknown : status.isKnown = error?.isNone) :
    ∃ message, statusResponse status error? = .json 200
        (.object [("status", .string status.name), ("errorMessage", .string message)]) ∧
      (message ≠ "" ↔ status = .unknown) := by
  cases status with
  | unknown =>
    cases error? with
    | none => cases hknown
    | some e => exact ⟨e.message, rfl, iff_of_true e.message_ne_empty rfl⟩
  | noWallet | unregistered | registered => exact ⟨"", by cases error? <;> rfl, by simp⟩

/-- A request with the method of a route is answered with what the route answers. -/
lemma exists_of_handle {route : Route} {r : Request} (hroute : Route.ofPath? r.path = some route)
    (hmethod : r.method = route.method) {freshId : String} {context : Context} {w : World} {answer : Response}
    (h : (handle freshId r context w).1 = some answer) :
    ∃ told, (route.respond r context w).1 = some told ∧ answer.status = told.status ∧
      answer.body = told.body := by
  rw [handle_eq hroute (mem_allowed_of_method hmethod), Act.run_map, Option.map_eq_some_iff] at h
  obtain ⟨told, htold, rfl⟩ := h
  rw [sentTo_of_method hmethod]
  exact ⟨told, htold, rfl, rfl⟩

lemma respond_registrationStatus (r : Request) (context : Context) (w : World) :
    (Route.registrationStatus.respond r context w).1 =
      (Act.registrationStatus context w).1.map fun (status, error?) => statusResponse status error? := by
  rw [Route.respond, Act.run_bind]
  rcases Act.registrationStatus context w with ⟨_ | ⟨status, error?⟩, w'⟩ <;> rfl

end Api

/-- A look tells why it has failed exactly if it does not tell that the node is registered or that it is not. If
that is known already nothing is done; otherwise one attempt to log in is made, and the failure is that of this
attempt. What a look has told is told by the next one without any call. So the gate in front of the modules always
knows why a status is unknown, and the answer to a request for the status tells why exactly if it is unknown. -/
theorem look_tells_status_or_failure (context : Context) (w : World) :
    (w.session.status.isKnown → Act.registrationStatus context w = (some (w.session.status, none), w)) ∧
      (w.session.status.isKnown = false →
        (Act.registrationStatus context w).2 = (Act.logIn context w).2 ∧
          ∃ events, (Act.registrationStatus context w).2.log = w.log ++ events ∧
            IsLogInAttempt w.wallet events) ∧
      (context.connection.dropsSilent = false → (Act.registrationStatus context w).1.isSome) ∧
      (∀ status error?, (Act.registrationStatus context w).1 = some (status, error?) →
        (error? = none ↔ status = .registered ∨ status = .unregistered) ∧
          (∀ e, error? = some e → (Act.logIn context w).1 = some (.error e)) ∧
          (error? = none → ∀ context' replies,
            let w' := { (Act.registrationStatus context w).2 with replies }
            Act.registrationStatus context' w' = (some (status, none), w'))) ∧
      (∀ status e, (Act.requireRegistered context w).1 = some (.error (.unknownStatus status e)) →
        status = .unknown ∧ (Act.logIn context w).1 = some (.error e) ∧
          e ≠ .invalidResponse "registration status could not be determined") ∧
      ∀ freshId r answer, Api.Route.ofPath? r.path = some .registrationStatus → r.method = "GET" →
        (Api.handle freshId r context w).1 = some answer →
          ∃ status message, (Act.registrationStatus context w).1.map Prod.fst = some status ∧
            answer.status = 200 ∧
            answer.body = .json
              (.object [("status", .string status.name), ("errorMessage", .string message)]) ∧
            (message ≠ "" ↔ status = .unknown) := by
  have hrule : LookUpRule context w (Act.registrationStatus context w).1
      (Act.registrationStatus context w).2 := .of_registrationStatus rfl
  refine ⟨Act.registrationStatus_of_isKnown, fun hunknown => ?_,
    Law.holds_completing.obeys_registrationStatus context w, fun status error? hlook => ?_,
    fun status e hrequire => ?_, fun freshId r answer hroute hmethod hanswer => ?_⟩
  · have hrun : (Act.registrationStatus context w).2 = (Act.logIn context w).2 := by
      rw [Act.registrationStatus_of_not_isKnown hunknown]
    rw [hrun]
    exact ⟨rfl, (LogInRule.of_logIn rfl).isLogInAttempt⟩
  · rw [hlook] at hrule
    have hknown := hrule.isKnown_eq
    refine ⟨?_, ?_, ?_⟩
    · rw [← Status.isKnown_iff, hknown, Option.isNone_iff_eq_none]
    · rintro e rfl
      exact Act.logIn_of_registrationStatus hlook
    · rintro rfl context' replies w'
      have hsame : w'.session.status = status := hrule.status_eq
      rw [Act.registrationStatus_of_isKnown (hsame ▸ hknown), hsame]
  · rw [Api.requireRegistered_eq, Act.run_map, Option.map_eq_some_iff] at hrequire
    obtain ⟨⟨status', error?⟩, hlook, hjudge⟩ := hrequire
    rw [hlook] at hrule
    obtain ⟨rfl, rfl⟩ := Api.judge_eq_unknownStatus hjudge hrule.isKnown_eq
    have hlogin := Act.logIn_of_registrationStatus hlook
    have hfailed : LogInRule context w (some (.error e)) (Act.logIn context w).2 :=
      .of_logIn (by rw [← hlogin])
    obtain ⟨events, -, hfailure⟩ := hfailed.failure
    exact ⟨rfl, hlogin, hfailure.ne_invalidResponse _⟩
  · obtain ⟨told, htold, hstatus, hbody⟩ := Api.exists_of_handle hroute hmethod hanswer
    rw [Api.respond_registrationStatus, Option.map_eq_some_iff] at htold
    obtain ⟨⟨status, error?⟩, hlook, rfl⟩ := htold
    rw [hlook] at hrule
    obtain ⟨message, htold, hmessage⟩ := Api.exists_statusResponse_eq hrule.isKnown_eq
    dsimp only at hstatus hbody
    rw [htold] at hstatus hbody
    exact ⟨status, message, by rw [hlook]; rfl, hstatus, hbody, hmessage⟩

end OperatorDaemon
