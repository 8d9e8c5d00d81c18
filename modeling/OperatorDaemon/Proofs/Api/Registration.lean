import OperatorDaemon.Proofs.Api.Look

/-!
# Registering the node

A registration makes a single call, if there is an email address and a key. When the service accepts it, one
attempt to log in follows that has no part in the outcome; when it does not, nothing follows.
-/

namespace OperatorDaemon

open Service (Call Error Exchange)

/-! ### Errors of calls -/

lemma Service.root_readRefusal (status : Nat) (body : List UInt8) :
    (readRefusal status body).root = readRefusal status body := by
  have hkey (key text : String) : (Error.ofKey status key text).root = Error.ofKey status key text := by
    unfold Error.ofKey
    split <;> rfl
  unfold readRefusal
  split
  · exact hkey _ _
  · exact hkey _ _

/-- An error that is read from a reply does not name an operation. -/
lemma Service.Call.root_of_read {c : Call} {label : ReplyLabel} {status : Nat} {body : List UInt8} {e : Error}
    (h : c.read label status body = .error e) : e.root = e := by
  unfold read readEnvelope at h
  split_ifs at h with hsuccess
  · cases hbody : (Envelope.codec c.codec).readBytes body with
    | error failure =>
      rw [hbody] at h
      cases h
      rfl
    | ok envelope =>
      simp only [hbody, Except.mapError] at h
      split at h
      · cases h
      · cases h
        rfl
  · cases h
    exact root_readRefusal status body

/-- An error of a call does not name an operation. -/
lemma Context.root_of_outcome {context : Context} {c : Call} {token : Option String}
    {replies : List Service.Reply} {e : Error}
    (h : (context.exchange c token replies).outcome = some (.error e)) : e.root = e := by
  cases hreply : context.reply? c token replies with
  | none =>
    obtain hnone | ⟨text, htext⟩ := outcome_of_no_reply hreply
    · rw [hnone] at h
      cases h
    · rw [htext] at h
      cases h
      rfl
  | some reply =>
    obtain ⟨label, houtcome⟩ := outcome_of_reply hreply
    rw [houtcome] at h
    exact Call.root_of_read (Option.some.inj h)

/-! ### Outcomes -/

/-- What a registration comes to, and what it does, when `x` is what comes of its call. -/
structure RegistersBy {c : Call} (x : Exchange c) (context : Context) (w : World)
    (result : Option (Except Error Registration)) (w' : World) : Prop where
  /-- There is a result, unless the service may leave a call hanging. -/
  completed : context.connection.dropsSilent = false → result.isSome
  /-- The call is made once. If it is granted one attempt to log in follows, and nothing otherwise. -/
  log : ∃ events, w'.log = w.log ++ .called c w.session.token x :: events ∧
    ((∃ data, x.outcome = some (.ok data)) → IsLogInAttempt w.wallet events) ∧
    ((∀ data, x.outcome ≠ some (.ok data)) → events = [])
  /-- If the call is granted the registration is a success, however the attempt to log in goes. -/
  success : (∃ data, x.outcome = some (.ok data)) → ∀ outcome, result = some outcome → outcome = .ok .success
  /-- The node may be registered already. -/
  alreadyRegistered : x.outcome = some (.error .alreadyRegistered) → result = some (.ok .alreadyRegistered)
  /-- The user may not have allowed the node. -/
  notWhitelisted : x.outcome = some (.error .notWhitelisted) → result = some (.ok .notWhitelisted)
  /-- Any other error is told as one of the registration. -/
  failed : ∀ e, x.outcome = some (.error e) → e ≠ .alreadyRegistered → e ≠ .notWhitelisted →
    result = some (.error (.during "registering node" e)) ∧ (Error.during "registering node" e).root = e

lemma Registration.ofRefusal_eq {e : Error} (hregistered : e ≠ .alreadyRegistered)
    (hallowed : e ≠ .notWhitelisted) : ofRefusal e = .error (.during "registering node" e) := by
  unfold ofRefusal
  split
  · contradiction
  · contradiction
  · rfl

/-- A key is registered by a single call. -/
lemma RegisterRule.registersBy {key : PrivateKey} {email : String} {context : Context} {w w' : World}
    {result : Option (Except Error Registration)} (h : RegisterRule key email context w result w')
    (hcompleted : context.connection.dropsSilent = false → result.isSome) :
    RegistersBy (context.exchange (.nodeAddress (.signed key email)) w.session.token w.replies) context w
      result w' := by
  cases h with
  | dropped x hx h =>
    subst hx
    exact {
      completed := hcompleted
      log := ⟨[], rfl, by simp [h], fun _ => rfl⟩
      success := by simp [h]
      alreadyRegistered := by simp [h]
      notWhitelisted := by simp [h]
      failed := by simp [h] }
  | refused x e hx h =>
    -- The error is known, so each field is about this error or about none.
    subst hx
    exact {
      completed := hcompleted
      log := ⟨[], rfl, by simp [h], fun _ => rfl⟩
      success := by simp [h]
      alreadyRegistered := by
        rw [h]
        rintro ⟨⟩
        rfl
      notWhitelisted := by
        rw [h]
        rintro ⟨⟩
        rfl
      failed := by
        intro e' he' hregistered hallowed
        rw [h] at he'
        cases he'
        exact ⟨by rw [Registration.ofRefusal_eq hregistered hallowed], Context.root_of_outcome h⟩ }
  | accepted x data login w' hx h hlogin =>
    subst hx
    obtain ⟨events, hlog, hevents⟩ := hlogin.isLogInAttempt
    exact {
      completed := hcompleted
      log := ⟨events, by simpa using hlog, fun _ => hevents, fun hnone => absurd h (hnone data)⟩
      success := by
        rintro - outcome houtcome
        obtain ⟨-, -, rfl⟩ := Option.map_eq_some_iff.mp houtcome
        rfl
      alreadyRegistered := by simp [h]
      notWhitelisted := by simp [h]
      failed := by simp [h] }

namespace Act

variable {text : String} {context : Context} {w : World}

lemma register_of_malformed (h : Email.normalize? text = none) :
    register text context w = (some (.error (.invalidEmail (trim text))), w) := by
  unfold register
  rw [h]
  rfl

lemma register_of_unloaded {email : String} (hemail : Email.normalize? text = some email)
    (hkey : w.wallet.key = none) : register text context w = (some (.error .walletNotLoaded), w) := by
  unfold register
  rw [hemail]
  simp only [run_bind, run_world, hkey, run_pure]

lemma register_of_loaded {email : String} (hemail : Email.normalize? text = some email) {key : PrivateKey}
    (hkey : w.wallet.key = some key) : register text context w = registerKey key email context w := by
  unfold register
  rw [hemail]
  simp only [run_bind, run_world, hkey]

end Act

lemma Registration.ofRefusal_ne_unknown (e : Error) : ofRefusal e ≠ .ok .unknown := by
  unfold ofRefusal
  split <;> simp

/-- A registration never comes to an unknown outcome. -/
lemma Act.register_ne_unknown (text : String) (context : Context) (w : World) :
    (register text context w).1 ≠ some (.ok .unknown) := by
  cases hemail : Email.normalize? text with
  | none => simp [register_of_malformed hemail]
  | some email =>
    cases hkey : w.wallet.key with
    | none => simp [register_of_unloaded hemail hkey]
    | some key =>
      rw [register_of_loaded hemail hkey]
      rcases hrun : registerKey key email context w with ⟨result, w'⟩
      have hrule : RegisterRule key email context w result w' := .of_registerKey hrun
      cases hrule with
      | dropped x hx h => simp
      | refused x e hx h => simpa using Registration.ofRefusal_ne_unknown e
      | accepted x data login w' hx h hlogin => cases login <;> simp

namespace Api

lemma Problem.status_ofError_ne (e : Error) : (ofError e).status ≠ 200 := by
  unfold ofError
  split <;> exact Nat.ne_of_beq_eq_false rfl

/-- A request for a registration that is answered with a success has led to an outcome, and that is told. -/
lemma handle_registerNode {r : Request} (hroute : Route.ofPath? r.path = some .registerNode)
    (hmethod : r.method = "POST") {freshId : String} {context : Context} {w : World} {answer : Response}
    (hanswer : (handle freshId r context w).1 = some answer) (hstatus : answer.status = 200) :
    ∃ text registration, r.readBody emailCodec = .ok text ∧
      (Act.register text context w).1 = some (.ok registration) ∧
      registration ≠ .unknown ∧ answer.body = (registrationResponse registration).body := by
  obtain ⟨told, htold, hsame, hbody⟩ := exists_of_handle hroute hmethod hanswer
  rw [hsame] at hstatus
  rw [hbody]
  unfold Route.respond at htold
  cases hread : r.readBody emailCodec with
  | error rejection =>
    rw [hread] at htold
    cases htold
    cases rejection <;> cases hstatus
  | ok text =>
    rw [hread] at htold
    simp only [Act.run_bind] at htold
    rcases hrun : Act.register text context w with ⟨_ | e | registration, w'⟩
    · rw [hrun] at htold
      cases htold
    · rw [hrun] at htold
      cases htold
      exact absurd hstatus (Problem.status_ofError_ne e)
    · rw [hrun] at htold
      cases htold
      refine ⟨text, registration, rfl, by rw [hrun], ?_, rfl⟩
      rintro rfl
      cases hstatus

end Api

/-- What comes of a registration. A text that is no email address is refused whatever the wallet is, and any text
is refused if no key is loaded; either way nothing is done. Otherwise it goes by what comes of its single call. A
request for a registration that is answered with a success tells exactly one outcome, the one that has come of the
registration. No registration comes to an unknown outcome. -/
theorem register_comes_to_one_outcome (text : String) (context : Context) (w : World) :
    (Email.normalize? text = none →
      Act.register text context w = (some (.error (.invalidEmail (trim text))), w)) ∧
      (∀ email, Email.normalize? text = some email → w.wallet.key = none →
        Act.register text context w = (some (.error .walletNotLoaded), w)) ∧
      (∀ email key, Email.normalize? text = some email → w.wallet.key = some key →
        RegistersBy (context.exchange (.nodeAddress (.signed key email)) w.session.token w.replies) context w
          (Act.register text context w).1 (Act.register text context w).2) ∧
      (Act.register text context w).1 ≠ some (.ok .unknown) ∧
      ∀ freshId r answer, Api.Route.ofPath? r.path = some .registerNode → r.method = "POST" →
        (Api.handle freshId r context w).1 = some answer → answer.status = 200 →
          ∃ text registration, r.readBody Api.emailCodec = .ok text ∧
            (Act.register text context w).1 = some (.ok registration) ∧
            ∃ success alreadyRegistered notWhitelisted : Bool,
              answer.body = .json (.object [("success", .bool success),
                ("alreadyRegistered", .bool alreadyRegistered), ("notWhitelisted", .bool notWhitelisted)]) ∧
              [success, alreadyRegistered, notWhitelisted].count true = 1 ∧
              (success ↔ registration = .success) ∧
              (alreadyRegistered ↔ registration = .alreadyRegistered) ∧
              (notWhitelisted ↔ registration = .notWhitelisted) := by
  refine ⟨Act.register_of_malformed, fun email => Act.register_of_unloaded, fun email key hemail hkey => ?_,
    Act.register_ne_unknown text context w, fun freshId r answer hroute hmethod hanswer hstatus => ?_⟩
  · rw [Act.register_of_loaded hemail hkey]
    exact (RegisterRule.of_registerKey rfl).registersBy
      (Law.holds_completing.obeys_registerKey key email context w)
  · obtain ⟨text, registration, hbody, hrun, hknown, hflags⟩ :=
      Api.handle_registerNode hroute hmethod hanswer hstatus
    rw [Api.registrationResponse, if_neg hknown] at hflags
    refine ⟨text, registration, hbody, hrun, _, _, _, hflags, ?_, ?_, ?_, ?_⟩
    · cases registration with
      | unknown => exact absurd rfl hknown
      | success | alreadyRegistered | notWhitelisted => rfl
    · exact decide_eq_true_iff
    · exact decide_eq_true_iff
    · exact decide_eq_true_iff

end OperatorDaemon
