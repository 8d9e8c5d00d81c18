import OperatorDaemon.Proofs.Module.Members
import OperatorDaemon.Proofs.Module.Success

/-!
# What the flags of an answer tell

An operation sets a flag if its last attempt has failed with the error that the flag stands for, and only then;
what goes wrong in a login between its attempts sets none. An answer sets one flag at most, and its data are
blank if it does. Any other failure is an error that bears the name of the operation, once.
-/

namespace OperatorDaemon

open OperatorDaemon.Module (Answer Flag Operation Payload)
open Service (Call Error Exchange)

/-! ### The last attempt -/

/-- The error with which an event, if it is a call, has failed. -/
def Event.failure? : Event → Option Error
  | .loginStarted _ => none
  | .called _ _ x =>
    match x.outcome with
    | some (.error e) => some e
    | some (.ok _) | none => none

/-- The error with which the last call to a module among some events has failed. -/
def lastFailure (events : List Event) : Option Error :=
  (events.filter Event.isModuleCall).getLast?.bind Event.failure?

lemma Event.failure?_of_error {c : Call} {token : Option String} {x : Exchange c} {e : Error}
    (h : x.outcome = some (.error e)) : (called c token x).failure? = some e := by
  simp [failure?, h]

lemma Event.failure?_of_ok {c : Call} {token : Option String} {x : Exchange c} {data : c.Data}
    (h : x.outcome = some (.ok data)) : (called c token x).failure? = none := by
  simp [failure?, h]

lemma lastFailure_concat {c : Call} (hc : c.isModule) (events : List Event) (token : Option String)
    (x : Exchange c) :
    lastFailure (events ++ [.called c token x]) = (Event.called c token x).failure? := by
  simp [lastFailure, hc]

lemma lastFailure_append_of_quiet {events : List Event}
    (h : events.countP Event.isModuleCall = 0) (before : List Event) :
    lastFailure (before ++ events) = lastFailure before := by
  rw [List.countP_eq_zero] at h
  simp [lastFailure, List.filter_append, List.filter_eq_nil_iff.mpr h]

/-! ### Flags -/

namespace Module

lemma Flag.eq_of_name {flag flag' : Flag} (h : flag.name = flag'.name) : flag = flag' := by
  cases flag <;> cases flag' <;> first | rfl | exact absurd h (by decide)

lemma Flag.eq_of_error? {flag flag' : Flag} {e : Error} (h : flag.error? = some e)
    (h' : flag'.error? = some e) : flag = flag' := by
  rw [← h'] at h
  cases flag <;> cases flag' <;> first | rfl | cases h

/-- No flag stands for an invalid session. -/
lemma Flag.isInvalidSession_of_error? {flag : Flag} {e : Error} (h : flag.error? = some e) :
    e.isInvalidSession = false := by
  cases flag <;> cases h <;> rfl

lemma Payload.name_notMem (payload : Payload) (flag : Flag) (v : Json.Value) :
    (flag.name, v) ∉ payload.members := by
  cases payload <;> cases flag <;> simp [members, Flag.name]

namespace Operation

variable {o : Operation}

lemma flagOf?_eq_some {e : Error} {flag : Flag} :
    o.flagOf? e = some flag ↔ flag ∈ o.flags ∧ flag.error? = some e := by
  constructor
  · intro h
    exact ⟨List.mem_of_find?_eq_some h, by simpa using List.find?_some h⟩
  · rintro ⟨hmem, herror⟩
    match hfound : o.flagOf? e with
    | some flag' =>
      have herror' : flag'.error? = some e := by simpa using List.find?_some hfound
      rw [Flag.eq_of_error? herror' herror]
    | none =>
      have hnone := List.find?_eq_none.mp hfound flag hmem
      simp [herror] at hnone

/-- An answer to an operation sets a flag: the flag is a member of its JSON form, and is true. -/
def Sets (o : Operation) (a : Answer) (flag : Flag) : Prop :=
  ∃ members, o.toJson a = .object members ∧ (flag.name, .bool true) ∈ members

/-- The only flag that an answer sets is that for which it is refused. -/
lemma sets_iff {a : Answer} {flag : Flag} :
    o.Sets a flag ↔ flag ∈ o.flags ∧ a.flag? = some flag := by
  have hjson : o.toJson a =
      .object (o.flags.map (fun flag => (flag.name, .bool (a.flag? = some flag))) ++
        (o.payload a).members) := by
    cases a <;> rfl
  unfold Sets
  rw [hjson]
  simp only [Json.Value.object.injEq, exists_eq_left', List.mem_append, Payload.name_notMem, or_false,
    List.mem_map, Prod.mk.injEq, Json.Value.bool.injEq, decide_eq_true_eq]
  constructor
  · rintro ⟨flag', hmem, hname, hflag⟩
    obtain rfl := Flag.eq_of_name hname
    exact ⟨hmem, hflag⟩
  · rintro ⟨hmem, hflag⟩
    exact ⟨flag, hmem, rfl, hflag⟩

/-! ### Answers -/

/-- What holds of every answer that an operation comes to. -/
structure WellTold (o : Operation) (a : Answer) : Prop where
  /-- It does not say that the node is not registered. -/
  members : o.toJson a = .object (("notRegistered", .bool false) :: o.members a)
  /-- It sets one flag at most. -/
  one : ∀ flag flag', o.Sets a flag → o.Sets a flag' → flag = flag'
  /-- If it sets one, its data say nothing. -/
  blank : ∀ flag, o.Sets a flag → ∀ member ∈ (o.payload a).members, member.2.IsBlank
  /-- If it is about the registered address, there is one exactly if it says so. -/
  registered : ∀ deployment, o = .registeredAddress deployment → ∃ isRegistered address,
    (o.payload a).members = [("isRegistered", .bool isRegistered), ("registeredAddress", address)] ∧
      (isRegistered ↔ address ≠ .null)

/-- The data of an answer about the registered address. -/
lemma registered_of_conclude {deployment : String}
    {outcome : Except Error (Operation.registeredAddress deployment).call.1.Data} {a : Answer}
    (h : (Operation.registeredAddress deployment).conclude outcome = .ok a) :
    ∃ address?, (Operation.registeredAddress deployment).payload a = .registeredAddress address? := by
  cases a with
  | refused flag => exact ⟨none, rfl⟩
  | granted payload =>
    obtain ⟨data, -, hpayload⟩ := conclude_eq_granted.mp h
    cases hpayload
    exact ⟨_, rfl⟩

lemma wellTold_of_conclude {outcome : Except Error o.call.1.Data} {a : Answer}
    (h : o.conclude outcome = .ok a) : o.WellTold a where
  members := by rw [toJson_eq, decide_eq_false (flag?_of_conclude h)]
  one := by
    intro flag flag' hflag hflag'
    exact Option.some.inj ((sets_iff.mp hflag).2.symm.trans (sets_iff.mp hflag').2)
  blank := by
    intro flag hflag member hmember
    cases a with
    | granted payload => cases (sets_iff.mp hflag).2
    | refused flag' => exact o.isBlank_of_mem_blank hmember
  registered := by
    rintro deployment rfl
    obtain ⟨address?, hpayload⟩ := registered_of_conclude h
    refine ⟨address?.isSome, (Json.Codec.option Service.addressCodec).encode address?, ?_, ?_⟩
    · rw [hpayload]
      rfl
    · cases address? <;> simp [Json.Codec.option, Service.addressCodec, Json.Codec.fixedBytes]

end Operation

end Module

/-! ### Results -/

/-- How what has happened in an operation makes its result. -/
inductive Told (o : Operation) : List Event → Except Error Answer → Prop where
  /-- The last attempt succeeds, and its data can be read. -/
  | granted (before : List Event) (token : Option String) (x : Exchange o.call.1) (data : o.call.1.Data)
      (payload : Payload) (hx : x.outcome = some (.ok data)) (hpayload : o.call.2 data = .ok payload) :
      Told o (before ++ [.called o.call.1 token x]) (.ok (.granted payload))
  /-- The last attempt succeeds, but its data cannot be read. -/
  | unreadable (before : List Event) (token : Option String) (x : Exchange o.call.1)
      (data : o.call.1.Data) (e : Error) (hx : x.outcome = some (.ok data))
      (he : o.call.2 data = .error e) :
      Told o (before ++ [.called o.call.1 token x]) (.error (.during o.name e))
  /-- The last attempt fails with the error of a flag of the operation. -/
  | refused (before : List Event) (token : Option String) (x : Exchange o.call.1) (e : Error)
      (flag : Flag) (hx : x.outcome = some (.error e)) (hmem : flag ∈ o.flags)
      (hflag : flag.error? = some e) :
      Told o (before ++ [.called o.call.1 token x]) (.ok (.refused flag))
  /-- The last attempt fails with another error. -/
  | failed (before : List Event) (token : Option String) (x : Exchange o.call.1) (e : Error)
      (hx : x.outcome = some (.error e)) (hother : ∀ flag ∈ o.flags, flag.error? ≠ some e) :
      Told o (before ++ [.called o.call.1 token x]) (.error (.during o.name e))
  /-- The session is invalid, and the login fails. -/
  | loginFailed (token : Option String) (x : Exchange o.call.1) (login : List Event) (e e' : Error)
      (hx : x.outcome = some (.error e)) (he : e.isInvalidSession) (hlogin : LogInFailure login e') :
      Told o (.called o.call.1 token x :: login) (.error (.during o.name e'))

namespace Told

variable {o : Operation} {context : Context} {w : World} {events : List Event}
  {result : Except Error Answer}

lemma of_outcome (before : List Event) {token : Option String} {x : Exchange o.call.1}
    {outcome : Except Error o.call.1.Data} (hx : x.outcome = some outcome) :
    Told o (before ++ [.called o.call.1 token x]) (o.conclude outcome) := by
  cases outcome with
  | ok data =>
    cases hpayload : o.call.2 data with
    | ok payload => simpa [Operation.conclude, hpayload] using granted before token x data payload hx hpayload
    | error e => simpa [Operation.conclude, hpayload] using unreadable before token x data e hx hpayload
  | error e =>
    cases hflag : o.flagOf? e with
    | some flag =>
      obtain ⟨hmem, herror⟩ := Operation.flagOf?_eq_some.mp hflag
      simpa [Operation.conclude, Operation.refusal, hflag] using
        refused before token x e flag hx hmem herror
    | none =>
      have hother : ∀ flag ∈ o.flags, flag.error? ≠ some e := by
        intro flag hmem herror
        simp [Operation.flagOf?_eq_some.mpr ⟨hmem, herror⟩] at hflag
      simpa [Operation.conclude, Operation.refusal, hflag] using failed before token x e hx hother

/-- An error of a login is none that an operation has a flag for. -/
lemma flagOf?_of_logInFailure {login : List Event} {e : Error} (h : LogInFailure login e) :
    o.flagOf? e = none := by
  cases hflag : o.flagOf? e with
  | none => rfl
  | some flag =>
    have herror := (Operation.flagOf?_eq_some.mp hflag).2
    cases h <;> cases flag <;> cases herror

/-- There are no other ways for a result to come about. -/
lemma of_attempts (h : Attempts o context w events result) : Told o events result := by
  cases h with
  | once x outcome hx hkept houtcome => exact of_outcome [] houtcome
  | loginFailed x login e hx haway hlogin =>
    obtain ⟨e', he', hinvalid⟩ := Context.exists_outcome_isInvalidSession.mpr haway
    simpa [Operation.conclude, Operation.refusal, flagOf?_of_logInFailure hlogin] using
      loginFailed w.session.token x login e' e (hx ▸ he') hinvalid hlogin
  | again x x' token' replies' n challenge r l outcome hx haway hlogin hx' hsame houtcome =>
    exact of_outcome (.called _ w.session.token x :: loginEvents n challenge.token l) houtcome

/-- A flag is set if the last call to a module has failed with the error that it stands for, and only then. -/
lemma flag_iff (h : Told o events result) (flag : Flag) :
    (∃ a, result = .ok a ∧ o.Sets a flag) ↔
      flag ∈ o.flags ∧ ∃ e, flag.error? = some e ∧ lastFailure events = some e := by
  cases h with
  | granted before token x data payload hx hpayload =>
    simp [Operation.sets_iff, Answer.flag?, lastFailure_concat, Event.failure?_of_ok hx]
  | unreadable before token x data e hx he =>
    simp [lastFailure_concat, Event.failure?_of_ok hx]
  | refused before token x e flag' hx hmem hflag =>
    simp only [Except.ok.injEq, exists_eq_left', Operation.sets_iff, Answer.flag?, Option.some.injEq,
      lastFailure_concat o.isModule_call, Event.failure?_of_error hx, exists_eq_right']
    constructor
    · rintro ⟨hmem, rfl⟩
      exact ⟨hmem, hflag⟩
    · rintro ⟨hmem, herror⟩
      exact ⟨hmem, Module.Flag.eq_of_error? hflag herror⟩
  | failed before token x e hx hother =>
    simp only [reduceCtorEq, false_and, exists_false, false_iff,
      lastFailure_concat o.isModule_call, Event.failure?_of_error hx]
    rintro ⟨hmem, e', herror, he⟩
    exact hother flag hmem (herror.trans he.symm)
  | loginFailed token x login e e' hx he hlogin =>
    have hlast : lastFailure (.called o.call.1 token x :: login) = some e := by
      rw [← List.singleton_append, lastFailure_append_of_quiet hlogin.bounds.module,
        ← List.nil_append [_], lastFailure_concat o.isModule_call, Event.failure?_of_error hx]
    simp only [reduceCtorEq, false_and, exists_false, false_iff, hlast]
    rintro ⟨-, e'', herror, hsame⟩
    cases hsame
    simp [Module.Flag.isInvalidSession_of_error? herror] at he

/-- An error bears the name of the operation once more, and its root is that of its cause. -/
lemma root_eq {e : Error} (h : Told o events (.error e)) :
    ∃ cause, e = .during o.name cause ∧ e.root = cause.root := by
  cases h <;> exact ⟨_, rfl, rfl⟩

end Told

/-- An operation that can be tried comes to an end unless the service may leave it hanging. The flags that its
answer sets are those of the operation that stand for the error of the last attempt. The answer sets at most one
flag, not that of a node that is not registered, and its data are blank if it sets one. Any other failure, be it
of an attempt or of a login, is an error with the name of the operation and the root of the failure. -/
theorem flags_run {o : Operation} (hfault : o.fault? = none) (context : Context) (w : World) :
    (context.connection.dropsSilent = false → (o.run context w).1.isSome) ∧
      ∀ result w', o.run context w = (some result, w') →
        ∃ events, w'.log = w.log ++ events ∧ Told o events result ∧
          (∀ flag, (∃ a, result = .ok a ∧ o.Sets a flag) ↔
            flag ∈ o.flags ∧ ∃ e, flag.error? = some e ∧ lastFailure events = some e) ∧
          (∀ a, result = .ok a → o.WellTold a) ∧
          ∀ e, result = .error e → ∃ cause, e = .during o.name cause ∧ e.root = cause.root := by
  refine ⟨Law.holds_completing.obeys_run o context w, fun result w' hrun => ?_⟩
  obtain ⟨events, hlog, hattempts⟩ := Attempts.of_run hfault hrun
  have htold := Told.of_attempts hattempts
  refine ⟨events, hlog, htold, htold.flag_iff, ?_, ?_⟩
  · rintro a rfl
    rw [Operation.run_eq hfault, Act.run_map] at hrun
    obtain ⟨outcome, -, houtcome⟩ := Option.map_eq_some_iff.mp (congrArg Prod.fst hrun)
    exact Operation.wellTold_of_conclude houtcome
  · rintro e rfl
    exact htold.root_eq

/-- The user may not use the module: the flag for that is set, and no other. -/
theorem flags_run_refused :
    (Operation.vaults "d").fault? = none ∧
      ∃ (w' : World) (events : List Event) (a : Answer),
        (Operation.vaults "d").run .sample (.serving [.refusing "invalid_permissions"]) =
          (some (.ok a), w') ∧
        lastFailure events = some .invalidPermissions ∧ (Operation.vaults "d").WellTold a ∧
        (Operation.vaults "d").Sets a .invalidPermissions := by
  have hanswer : ((Operation.vaults "d").run .sample
      (.serving [.refusing "invalid_permissions"])).1 =
        some (Except.ok (Answer.refused Flag.invalidPermissions)) := by decide +kernel
  rcases hrun : (Operation.vaults "d").run .sample (.serving [.refusing "invalid_permissions"])
    with ⟨result, w'⟩
  rw [hrun] at hanswer
  obtain rfl : result = _ := hanswer
  obtain ⟨events, -, -, hflags, htold, -⟩ :=
    (flags_run (o := .vaults "d") rfl .sample (.serving [.refusing "invalid_permissions"])).2 _ w' hrun
  have hsets : (Operation.vaults "d").Sets (.refused .invalidPermissions) .invalidPermissions :=
    Operation.sets_iff.mpr ⟨by decide, rfl⟩
  obtain ⟨-, e, herror, hlast⟩ := (hflags .invalidPermissions).mp ⟨_, rfl, hsets⟩
  cases herror
  exact ⟨rfl, w', events, _, rfl, hlast, htold _ rfl, hsets⟩

end OperatorDaemon
