import OperatorDaemon.Service.Call
import OperatorDaemon.Service.Error
import OperatorDaemon.Text.Base64
import OperatorDaemon.Url.Reader

/-!
# Requests to the service

From a call and a token to the request that goes out. The URL of the service is extended by the version
and the segments of the call. A user name in it is sent along in place of the token.
-/

namespace OperatorDaemon.Service

/-! ### Failures -/

/-- Why no reply came of a request. -/
inductive Failure where
  /-- There is no such request. -/
  | building
  /-- The URL is not one for requests. -/
  | buildingFor (url : Url)
  /-- The connection failed or was closed, or nothing came in time. -/
  | sending (url : Url)
  /-- The reply broke off. -/
  | decoding
  deriving DecidableEq, Repr

/-- The wording of a failure. -/
def Failure.message : Failure → String
  | building => "builder error"
  | buildingFor url => "builder error for url (" ++ url.text ++ ")"
  | sending url => "error sending request for url (" ++ url.text ++ ")"
  | decoding => "error decoding response body"

/-- The error that a failure is when nothing more is known about the request. -/
def Error.ofFailure (f : Failure) : Error :=
  match f with
  | .decoding => .invalidResponse f.message
  | .building | .buildingFor _ | .sending _ => .transport f.message

/-! ### Requests -/

/-- A request to the service. -/
structure Request where
  /-- The method. -/
  method : Method
  /-- The URL, without a user name. -/
  url : Url
  /-- On whose behalf the request is made. -/
  authorization : Option String
  /-- The JSON body. -/
  body : Option Json.Value

/-- Whether a text may stand in a header. -/
def isHeaderText (s : String) : Bool :=
  s.toList.all fun c => c = '\t' || (0x20 ≤ c.toNat && c.toNat != 0x7F)

/-- The user name in a URL and the password, with their escapes undone. -/
def userInfo? (url : Url) : Option (String × String) := do
  let authority ← url.authority
  if !authority.hasUserInfo then none
  let plain (s : String) : Option String := (Utf8.decode (Percent.decode (Utf8.bytes s))).toOption
  return (← plain authority.user, (plain authority.password).getD "")

/-- The authorization by a user name and a password. -/
def basicAuthorization (user password : String) : String :=
  "Basic " ++ Base64.encode (Utf8.bytes (user ++ ":" ++ password))

/-- The authorization by a token. -/
def bearerAuthorization (token : String) : String := "Bearer " ++ token

/-- The request of a method for a URL, with a token and a body if there are any. A URL has to name a
host, and the token has to fit into a header. -/
def Request.build (method : Method) (url : Url) (token : Option String) (body : Option Json.Value) :
    Except Failure Request :=
  if url.host?.isNone then .error (.buildingFor url)
  else if !token.all isHeaderText then .error .building
  else .ok <|
    match userInfo? url with
    | some (user, password) =>
      { method, body, url := url.withoutUserInfo
        authorization := some (basicAuthorization user password) }
    | none => { method, url, body, authorization := token.map bearerAuthorization }

namespace Request

/-- What a request is called in reports. -/
def context (r : Request) : String :=
  r.method.name ++ " " ++ r.url.path.text

/-- Whether a character may stand in the host of a request. -/
def isHostChar (c : Char) : Bool :=
  isAsciiLetter c || isAsciiDigit c || "!$&'()*+,-.:;=_~[]".toList.contains c

/-- Whether a request can be sent at all: the scheme is one for requests and so are the characters of
the host. -/
def isSendable (r : Request) : Bool :=
  (r.url.scheme = "http" || r.url.scheme = "https") &&
    (r.url.host?.all fun host => host.text.toList.all isHostChar)

end Request

/-! ### Clients -/

/-- A client of the service at some URL. -/
structure Client where
  /-- The URL of the service. -/
  base : Url
  /-- Segments can be put behind its path. -/
  canBeBase : base.canBeBase

namespace Client

/-- The client of the service at the URL that a text stands for. -/
def ofText (text : String) : Except Error Client :=
  match Url.parse text with
  | .error fault =>
    .error (.invalidInput ("invalid NodeSet URL " ++ text ++ ": " ++ fault.message))
  | .ok base =>
    if h : base.canBeBase then .ok ⟨base, h⟩
    else .error (.invalidInput ("NodeSet URL cannot be a base: " ++ text))

/-- The version of the interface. -/
def version : String := "v3"

/-- The URL of some segments. -/
def endpoint (c : Client) (segments : List String) : Url :=
  c.base.extend (version :: segments)

/-- The request of a call. -/
def request (c : Client) (call : Call) (token : Option String) : Except Failure Request :=
  Request.build call.method (c.endpoint call.segments)
    (if call.usesSession then token else none) call.body?

end Client

end OperatorDaemon.Service
