import OperatorDaemon.Proofs.Api.Gate

/-!
# How errors are reported

An answer to a request of the interface without a status of success tells an error in JSON, unless the input of
the request could not be read: then it tells so in plain text.
-/

namespace OperatorDaemon.Api

open Service (Error)

/-- Why the input of a request to a route is rejected, if it is. Some routes take no input. -/
def Route.rejection? (r : Request) : Route → Option Rejection
  | .health | .liveness | .walletStatus | .registrationStatus => none
  | .registerNode =>
    match r.readBody emailCodec with
    | .ok _ => none
    | .error rejection => some rejection
  | .module m =>
    match m.readInput r with
    | .ok _ => none
    | .error rejection => some rejection

/-- An answer tells an error in JSON: its body is an object with a text and a code. -/
def Response.TellsError (answer : Response) : Prop :=
  answer.contentType = some "application/json" ∧
    ∃ message code, answer.body =
      .json (.object [("error", .string message), ("error_code", .string code)])

/-- An answer says in plain text why input is rejected. -/
structure Response.TellsRejection (answer : Response) (rejection : Rejection) : Prop where
  status : answer.status = rejection.status
  contentType : answer.contentType = some "text/plain; charset=utf-8"
  body : answer.body = .text rejection.text

lemma Response.tellsError_ofProblem (p : Problem) : (ofProblem p).TellsError :=
  ⟨rfl, p.message, p.code, rfl⟩

/-- A rejection is no success, and told in plain text it is not told in JSON. -/
lemma Response.TellsRejection.not_tellsError {answer : Response} {rejection : Rejection}
    (h : answer.TellsRejection rejection) :
    Service.isSuccess answer.status = false ∧ ¬ answer.TellsError := by
  constructor
  · rw [h.status]
    cases rejection <;> rfl
  · rintro ⟨hcontent, -⟩
    rw [h.contentType] at hcontent
    exact absurd hcontent (by decide)

/-! ### Routes -/

variable {r : Request} {context : Context} {w : World} {answer : Response}

/-- The gate answers with a success, or it tells an error. -/
lemma GateRule.tellsError {deployment : String} {asked : Except String Module.Operation}
    {w' : World} (h : GateRule deployment asked context w (some answer) w')
    (hstatus : Service.isSuccess answer.status = false) : answer.TellsError := by
  cases h with
  | deploymentMissing | saltMalformed | walletUnready | walletMissing | unknown | failed =>
    exact Response.tellsError_ofProblem _
  | unregistered | answered => cases hstatus

lemma respond_registerNode_tellsError {email : String}
    (hinput : r.readBody emailCodec = .ok email)
    (h : (Route.registerNode.respond r context w).1 = some answer)
    (hstatus : Service.isSuccess answer.status = false) : answer.TellsError := by
  simp only [Route.respond, hinput, Act.run_bind] at h
  rcases hrun : Act.register email context w with ⟨_ | e | registration, w'⟩
  · rw [hrun] at h
    cases h
  · rw [hrun] at h
    cases h
    exact Response.tellsError_ofProblem _
  · rw [hrun] at h
    cases h
    cases registration with
    | unknown => exact Response.tellsError_ofProblem _
    | success | alreadyRegistered | notWhitelisted => cases hstatus

/-- A route whose input can be read answers with a success, or it tells an error. -/
lemma respond_tellsError {route : Route} (hhealth : route ≠ .health)
    (hinput : route.rejection? r = none) (h : (route.respond r context w).1 = some answer)
    (hstatus : Service.isSuccess answer.status = false) : answer.TellsError := by
  cases route with
  | health => contradiction
  | liveness =>
    cases h
    cases hstatus
  | walletStatus =>
    cases h
    cases hstatus
  | registrationStatus =>
    simp only [Route.respond, Act.run_bind] at h
    rcases hrun : Act.registrationStatus context w with ⟨_ | ⟨status, error?⟩, w'⟩
    · rw [hrun] at h
      cases h
    · rw [hrun] at h
      cases h
      cases hstatus
  | registerNode =>
    cases hbody : r.readBody emailCodec with
    | error rejection => simp [Route.rejection?, hbody] at hinput
    | ok email => exact respond_registerNode_tellsError hbody h hstatus
  | module m =>
    cases hread : m.readInput r with
    | error rejection => simp [Route.rejection?, hread] at hinput
    | ok input =>
      obtain ⟨asked, -, hrule⟩ := GateRule.of_respond hread context w
      rw [Route.respond] at h
      rw [h] at hrule
      exact hrule.tellsError hstatus

/-- A route whose input is rejected says so, and has no effect. -/
lemma respond_of_rejected {route : Route} {rejection : Rejection}
    (hinput : route.rejection? r = some rejection) :
    route.respond r context w = (some (.ofRejection rejection), w) := by
  cases route with
  | health | liveness | walletStatus | registrationStatus => cases hinput
  | registerNode =>
    cases hbody : r.readBody emailCodec with
    | ok email => simp [Route.rejection?, hbody] at hinput
    | error rejection' =>
      obtain rfl : rejection' = rejection := by simpa [Route.rejection?, hbody] using hinput
      simp [Route.respond, hbody]
  | module m =>
    cases hread : m.readInput r with
    | ok input => simp [Route.rejection?, hread] at hinput
    | error rejection' =>
      obtain rfl : rejection' = rejection := by simpa [Route.rejection?, hread] using hinput
      simp [Route.respond, ModuleRoute.respond, hread]

/-! ### Requests -/

/-- A request that is not for the head only is answered with the body of the route. -/
lemma sentTo_of_method {route : Route} (hmethod : r.method = route.method) (freshId : String) :
    answer.sentTo freshId r =
      { answer with requestId := some ((r.header? requestIdHeader).getD freshId) } := by
  have hhead : r.method ≠ "HEAD" := by
    rw [hmethod, Route.method]
    split <;> decide
  rw [Response.sentTo, if_neg hhead]

lemma mem_allowed_of_method {route : Route} (hmethod : r.method = route.method) :
    r.method ∈ route.allowed := by
  rw [hmethod, Route.method, Route.allowed]
  split
  · exact List.mem_singleton_self _
  · exact List.mem_cons_self

lemma path_of_ofPath? {path : String} {route : Route} (h : Route.ofPath? path = some route) :
    route.path = path := by
  simpa using List.find?_some h

/-- A request to a route of the interface whose input is rejected is answered in plain text and has no effect.
Where the input can be read, every answer without a status of success tells an error in JSON. -/
theorem reports_error_iff_readable {route : Route} (hroute : Route.ofPath? r.path = some route)
    (hpath : "/api/v1/".toList <+: r.path.toList) (hmethod : r.method = route.method)
    (freshId : String) (context : Context) (w : World) :
    (∀ rejection, route.rejection? r = some rejection →
      ∃ answer, handle freshId r context w = (some answer, w) ∧
        Service.isSuccess answer.status = false ∧ answer.TellsRejection rejection ∧
        ¬ answer.TellsError) ∧
    (route.rejection? r = none → ∀ answer, (handle freshId r context w).1 = some answer →
      Service.isSuccess answer.status = false → answer.TellsError) := by
  have hhealth : route ≠ .health := by
    rintro rfl
    rw [← path_of_ofPath? hroute] at hpath
    revert hpath
    decide
  rw [handle_eq hroute (mem_allowed_of_method hmethod), Act.run_map]
  constructor
  · intro rejection hinput
    rw [respond_of_rejected hinput]
    have htells : ((Response.ofRejection rejection).sentTo freshId r).TellsRejection rejection := by
      rw [sentTo_of_method hmethod]
      exact ⟨rfl, rfl, rfl⟩
    exact ⟨_, rfl, htells.not_tellsError.1, htells, htells.not_tellsError.2⟩
  · intro hinput answer hanswer hstatus
    obtain ⟨answer', hanswer', rfl⟩ := Option.map_eq_some_iff.mp hanswer
    rw [sentTo_of_method hmethod] at hstatus ⊢
    have htells : answer'.TellsError := respond_tellsError hhealth hinput hanswer' hstatus
    exact htells

/-- A request for vaults with a query. -/
def Request.forVaults (query : String) : Request where
  method := "GET"
  target := "/api/v1/nodeset/stakewise/get-vaults" ++ query
  headers := []
  body := []

/-- A deployment that is blank is a problem told in JSON, one that is missing is rejected in plain text. -/
theorem reports_error_iff_readable_forVaults :
    (∃ answer, (handle "id" (.forVaults "?deployment=") .sample freshWorld).1 = some answer ∧
      Service.isSuccess answer.status = false ∧ answer.TellsError) ∧
    ∃ answer, handle "id" (.forVaults "") .sample freshWorld = (some answer, freshWorld) ∧
      Service.isSuccess answer.status = false ∧ ¬ answer.TellsError := by
  have hroute (query : String) (h : Route.ofPath? (Request.forVaults query).path =
      some (.module .vaults)) (hpath : "/api/v1/".toList <+: (Request.forVaults query).path.toList) :=
    reports_error_iff_readable h hpath rfl "id" .sample freshWorld
  constructor
  · have hread : (Route.module .vaults).rejection? (.forVaults "?deployment=") = none := by
      decide +kernel
    have hstatus : (handle "id" (.forVaults "?deployment=") .sample freshWorld).1.map
        Response.status = some 400 := by decide +kernel
    obtain ⟨answer, hanswer, h400⟩ := Option.map_eq_some_iff.mp hstatus
    have hfailed : Service.isSuccess answer.status = false := by
      rw [h400]
      rfl
    exact ⟨answer, hanswer, hfailed,
      (hroute "?deployment=" (by decide +kernel) (by decide +kernel)).2 hread answer hanswer hfailed⟩
  · have hreject : (Route.module .vaults).rejection? (.forVaults "") =
        some (.query "missing field `deployment`") := by decide +kernel
    obtain ⟨answer, hanswer, hfailed, -, htells⟩ :=
      (hroute "" (by decide +kernel) (by decide +kernel)).1 _ hreject
    exact ⟨answer, hanswer, hfailed, htells⟩

/-- So it is not true that every answer without a status of success tells an error in JSON. -/
theorem not_tellsError_of_missing_query :
    ¬ ∀ (r : Request) (route : Route) (answer : Response), Route.ofPath? r.path = some route →
      "/api/v1/".toList <+: r.path.toList → r.method = route.method →
      (handle "id" r .sample freshWorld).1 = some answer → Service.isSuccess answer.status = false →
      answer.TellsError := by
  intro h
  have hsent : (handle "id" (.forVaults "") .sample freshWorld).1.map
      (fun answer => (answer.status, answer.contentType)) =
        some (400, some "text/plain; charset=utf-8") := by decide +kernel
  obtain ⟨answer, hanswer, hfields⟩ := Option.map_eq_some_iff.mp hsent
  obtain ⟨hstatus, hcontent⟩ := Prod.mk.inj hfields
  have htells := h (.forVaults "") (.module .vaults) answer (by decide +kernel) (by decide +kernel) rfl
    hanswer (by rw [hstatus]; rfl)
  rw [Response.TellsError, hcontent] at htells
  exact absurd htells.1 (by decide)

end OperatorDaemon.Api
