import OperatorDaemon.Proofs.Module.Attempts

/-!
# The members of an answer

The answer to an operation is an object, which begins with the flag for a node that is not registered. Only
the gate sets that flag, and the other members of its answer say nothing. They have the names that the members
of any other answer to the operation have.
-/

namespace OperatorDaemon

open OperatorDaemon.Module (Answer Flag Operation Payload)
open Service (Error SignatureReply)

/-- A value that says nothing: no bytes are written as `0x`. -/
inductive Json.Value.IsBlank : Json.Value → Prop where
  | null : IsBlank .null
  | no : IsBlank (.bool false)
  | zero : IsBlank (.number 0)
  | noText : IsBlank (.string "")
  | noBytes : IsBlank (.string "0x")
  | noItems : IsBlank (.array [])

namespace Module

/-- The data of an answer. -/
def Operation.payload (o : Operation) : Answer → Payload
  | .granted payload => payload
  | .refused _ => o.blank

/-- The members of an answer behind the first. -/
def Operation.members (o : Operation) (a : Answer) : List (String × Json.Value) :=
  o.flags.tail.map (fun flag => (flag.name, .bool (a.flag? = some flag))) ++ (o.payload a).members

namespace Operation

variable (o : Operation)

lemma toJson_eq (a : Answer) : o.toJson a =
    .object (("notRegistered", .bool (a.flag? = some .notRegistered)) :: o.members a) := by
  cases a <;> cases o <;> rfl

/-! ### The flag of the gate -/

lemma notRegistered_notMem_tail : Flag.notRegistered ∉ o.flags.tail := by
  cases o <;> simp [flags]

lemma isBlank_of_mem_blank {member : String × Json.Value} (h : member ∈ o.blank.members) :
    member.2.IsBlank := by
  cases o <;> simp only [blank, Payload.members, List.mem_cons, List.not_mem_nil, or_false] at h
  case validatorCounts | registeredAddress => rcases h with rfl | rfl | rfl <;> constructor
  all_goals
    subst h
    constructor

/-- The gate says nothing but that the node is not registered. -/
lemma isBlank_of_mem_members {member : String × Json.Value}
    (h : member ∈ o.members (.refused .notRegistered)) : member.2.IsBlank := by
  rcases List.mem_append.mp h with hflag | hblank
  · obtain ⟨flag, hmem, rfl⟩ := List.mem_map.mp hflag
    have hne : flag ≠ .notRegistered := fun h => o.notRegistered_notMem_tail (h ▸ hmem)
    simpa [Answer.flag?, hne.symm] using Json.Value.IsBlank.no
  · exact o.isBlank_of_mem_blank hblank

/-! ### The flags of the service -/

variable {o}

lemma names_of_signatureBytes {s : SignatureReply} {payload : Payload}
    (h : signatureBytes s = .ok payload) : payload.members.map Prod.fst = ["signature"] := by
  unfold signatureBytes at h
  split at h
  · cases h
    rfl
  · cases h

lemma names_of_call {data : o.call.1.Data} {payload : Payload} (h : o.call.2 data = .ok payload) :
    payload.members.map Prod.fst = o.blank.members.map Prod.fst := by
  cases o
  case registrationSignature | depositSignature => exact names_of_signatureBytes h
  all_goals
    cases h
    rfl

/-- An operation does not set the flag of the gate. -/
lemma flag?_of_conclude {outcome : Except Error o.call.1.Data} {a : Answer}
    (h : o.conclude outcome = .ok a) : a.flag? ≠ some .notRegistered := by
  cases outcome with
  | error e =>
    simp only [conclude, refusal] at h
    split at h
    · rename_i flag hflag
      cases h
      have herror := List.find?_some hflag
      rintro hgate
      cases hgate
      simp [Flag.error?] at herror
    · cases h
  | ok data =>
    simp only [conclude] at h
    split at h
    · cases h
      simp [Answer.flag?]
    · cases h

/-- All answers to an operation have the same names. -/
lemma names_of_conclude {outcome : Except Error o.call.1.Data} {a : Answer}
    (h : o.conclude outcome = .ok a) :
    (o.members a).map Prod.fst = (o.members (.refused .notRegistered)).map Prod.fst := by
  have hpayload : (o.payload a).members.map Prod.fst = o.blank.members.map Prod.fst := by
    cases outcome with
    | error e =>
      simp only [conclude, refusal] at h
      split at h <;> cases h
      rfl
    | ok data =>
      simp only [conclude] at h
      split at h
      · rename_i payload hpayload
        cases h
        exact names_of_call hpayload
      · cases h
  simp only [members, List.map_append, List.map_map, hpayload]
  rfl

/-- The JSON form of what an operation comes to. -/
lemma toJson_of_run {context : Context} {w w' : World} {a : Answer}
    (h : o.run context w = (some (.ok a), w')) :
    o.toJson a = .object (("notRegistered", .bool false) :: o.members a) ∧
      (o.members a).map Prod.fst = (o.members (.refused .notRegistered)).map Prod.fst := by
  cases hfault : o.fault? with
  | some e => simp [run, hfault] at h
  | none =>
    rw [run_eq hfault, Act.run_map] at h
    obtain ⟨outcome, -, houtcome⟩ := Option.map_eq_some_iff.mp (congrArg Prod.fst h)
    refine ⟨?_, names_of_conclude houtcome⟩
    rw [toJson_eq, decide_eq_false (flag?_of_conclude houtcome)]

end Operation

end Module

end OperatorDaemon
