import OperatorDaemon.Api.Route
import OperatorDaemon.Session.Gate
import OperatorDaemon.Session.Registration

/-!
# The local interface

What the daemon answers to a request. A request whose path or method is unknown is refused, and one whose
input cannot be read is rejected; neither has any effect. The paths `/docs`, those below it, and
`/api-doc/openapi.json` belong to the library that shows the interface to people. What it answers there is left
out, and to the definitions below these paths are unknown.
-/

namespace OperatorDaemon.Api

open OperatorDaemon.Module (Operation)

/-! ### Answers -/

/-- The body of an answer. -/
inductive Body where
  /-- No body. -/
  | empty
  /-- A text. -/
  | text (s : String)
  /-- A JSON value. -/
  | json (v : Json.Value)

/-- The content type of a body. -/
def Body.contentType? : Body → Option String
  | empty => none
  | text _ => some "text/plain; charset=utf-8"
  | json _ => some "application/json"

/-- An answer of the local interface. -/
structure Response where
  /-- The status. -/
  status : Nat
  /-- The content type. -/
  contentType : Option String
  /-- The methods that the path allows, if the request has another one. -/
  allow : List String := []
  /-- Who may read the answer. -/
  allowOrigin : String := "*"
  /-- The name of the request. -/
  requestId : Option String := none
  /-- The body. -/
  body : Body

namespace Response

/-- An answer with a body. -/
def ofBody (status : Nat) (body : Body) : Response :=
  { status, body, contentType := body.contentType? }

/-- An answer with a JSON body. -/
def json (status : Nat) (v : Json.Value) : Response := ofBody status (.json v)

/-- The answer that reports a problem. -/
def ofProblem (p : Problem) : Response := json p.status p.toJson

/-- The answer to input that is rejected. -/
def ofRejection (r : Rejection) : Response := ofBody r.status (.text r.text)

/-- The answer to an unmet requirement. -/
def ofRequirement (r : Requirement) : Response := ofProblem (.ofRequirement r)

/-- The answer to an error of the service. -/
def ofError (e : Service.Error) : Response := ofProblem (.ofError e)

/-- The answer without its body. -/
def withoutBody (r : Response) : Response := { r with body := .empty }

end Response

/-! ### Routes -/

/-- The answer about the wallet and the registration, as far as they are known. -/
def healthResponse (readiness : Wallet.Readiness) (session : Session) : Response :=
  let isReady := readiness = .ready
  .json (if isReady then 200 else 503) <| .object <|
    [("status", .string (if isReady then "ok" else "degraded")),
      ("wallet", .string readiness.name), ("nodeset", .string session.status.name)] ++
    match session.lastLogin with
    | none => []
    | some time => [("lastLogin", .string time)]

/-- The answer of a daemon that runs. -/
def livenessResponse : Response := .json 200 (.object [("status", .string "ok")])

/-- The answer about the wallet. -/
def walletResponse (s : Wallet.Status) : Response := .json 200 (.object [("walletStatus", s.toJson)])

/-- The answer about the registration status. Only the error behind an unknown status is told. -/
def statusResponse (status : Status) (error? : Option Service.Error) : Response :=
  let message := match status, error? with
    | .unknown, some error => error.message
    | _, _ => ""
  .json 200 (.object [("status", .string status.name), ("errorMessage", .string message)])

/-- The answer about a registration. -/
def registrationResponse (r : Registration) : Response :=
  if r = .unknown then .ofProblem (.internal "unknown registration result")
  else .json 200 <| .object
    [("success", .bool (r = .success)), ("alreadyRegistered", .bool (r = .alreadyRegistered)),
      ("notWhitelisted", .bool (r = .notWhitelisted))]

/-- Carry out an operation for a registered node. A node that is known not to be registered is told so
by a flag. -/
def runGated (o : Operation) : Act Response := do
  match ← Act.requireWallet with
  | .error requirement => return .ofRequirement requirement
  | .ok () =>
    match ← Act.requireRegistered with
    | .error .notRegistered => return .json 200 (o.toJson (.refused .notRegistered))
    | .error requirement => return .ofRequirement requirement
    | .ok () =>
      match ← o.run with
      | .ok answer => return .json 200 (o.toJson answer)
      | .error error => return .ofError error

/-- Answer a request to a module. -/
def ModuleRoute.respond (m : ModuleRoute) (r : Request) : Act Response := do
  match m.readInput r with
  | .error rejection => return .ofRejection rejection
  | .ok input =>
    match input.resolve with
    | .error problem => return .ofProblem problem
    | .ok operation => runGated operation

/-- Answer a request. -/
def Route.respond (route : Route) (r : Request) : Act Response := do
  match route with
  | .health =>
    let w ← Act.world
    return healthResponse (.ofStatus w.walletStatus) w.session
  | .liveness => return livenessResponse
  | .walletStatus => return walletResponse (← Act.world).walletStatus
  | .registrationStatus =>
    let (status, error?) ← Act.registrationStatus
    return statusResponse status error?
  | .registerNode =>
    match r.readBody emailCodec with
    | .error rejection => return .ofRejection rejection
    | .ok email =>
      match ← Act.register email with
      | .ok registration => return registrationResponse registration
      | .error error => return .ofError error
  | .module m => m.respond r

/-! ### Requests -/

/-- The answer to a request without a route. -/
def notFound : Response := .ofBody 404 .empty

/-- The answer to a request with a method that its path does not allow. -/
def methodNotAllowed (route : Route) : Response :=
  { Response.ofBody 405 .empty with allow := route.allowed }

/-- The answer to the question what may be requested from elsewhere. -/
def preflight (route? : Option Route) : Response :=
  { Response.ofBody 200 .empty with allow := (route?.map Route.allowed).getD [] }

/-- Answer a request to a route, if the route allows the method. -/
def dispatch (r : Request) : Act Response := do
  match Route.ofPath? r.path with
  | none => return notFound
  | some route =>
    if r.method = route.method then route.respond r
    else if r.method ∈ route.allowed then return (← route.respond r).withoutBody
    else return methodNotAllowed route

/-- The name of the header that names a request. -/
def requestIdHeader : String := "x-request-id"

/-- Answer a request. The answer bears the name of the request, which is `freshId` if it has none. -/
def handle (freshId : String) (r : Request) : Act Response := do
  if r.method = "OPTIONS" then return preflight (Route.ofPath? r.path)
  else
    let response ← dispatch r
    return { response with requestId := some ((r.header? requestIdHeader).getD freshId) }

end OperatorDaemon.Api
