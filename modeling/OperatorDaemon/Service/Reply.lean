import OperatorDaemon.Service.Request

/-!
# Replies of the service

What comes of a request, and what a reply says. A reply with a status of success holds an envelope with
data. Any other is a refusal, and the key in its envelope says why; without a key the status decides.
-/

namespace OperatorDaemon.Service

open Json (Codec)

/-- What one call of the client yields. A redirection is followed within the library that sends requests, and is
not modelled: what stands here is what the library hands over in the end, and it has no `Location` header. -/
inductive Reply where
  /-- It replies with a status and a body. -/
  | answer (status : Nat) (body : List UInt8)
  /-- It begins to reply and breaks off. -/
  | cut
  /-- It closes the connection. -/
  | close
  /-- It does nothing at all. -/
  | silence
  deriving DecidableEq, Repr

/-! ### Reading -/

/-- The error of a refusal. Without a key, the status for missing credentials means that the session is
invalid. -/
def Error.ofRefusal (status : Nat) (key message : String) : Error :=
  Error.ofKey status (if key.isEmpty && status = 401 then "invalid_session" else key) message

/-- The error that a reply without a status of success is. The data in its envelope does not matter. -/
def readRefusal (status : Nat) (body : List UInt8) : Error :=
  match (Envelope.codec ignoredCodec).readBytes body with
  | .ok envelope => Error.ofRefusal status envelope.error envelope.message
  | .error _ => Error.ofRefusal status "" (Utf8.decodeLossy body)

/-- Whether a status is one of success. -/
def isSuccess (status : Nat) : Bool := 200 ≤ status && status < 300

/-- What a reply is called in reports, and how they tell where in its body reading fails. The lines and columns
are up to the library that reads JSON. -/
structure ReplyLabel where
  /-- The request that it answers. -/
  context : String
  /-- Where in a body reading fails, to be put behind the cause. -/
  place : List UInt8 → String

/-- The envelope in a reply. -/
def readEnvelope {α : Type} (data : Codec α) (label : ReplyLabel) (status : Nat) (body : List UInt8) :
    Except Error (Envelope α) :=
  if isSuccess status then
    ((Envelope.codec data).readBytes body).mapError fun failure =>
      .invalidResponse (label.context ++ " invalid JSON: " ++ failure.cause.message ++ label.place body)
  else .error (readRefusal status body)

/-- The data in the reply to a call. -/
def Call.read (c : Call) (label : ReplyLabel) (status : Nat) (body : List UInt8) :
    Except Error c.Data :=
  match readEnvelope c.codec label status body with
  | .error error => .error error
  | .ok envelope =>
    match envelope.data <|> c.absentData? with
    | some data => .ok data
    | none => .error (.invalidResponse (label.context ++ " returned no data"))

/-! ### Delivery -/

/-- What becomes of requests on their way. -/
structure Connection where
  /-- Which URLs lead to the service. -/
  reaches : Url → Bool
  /-- Whether a request that the service leaves without any answer is dropped together with the
  operation that makes it. Otherwise it fails in the end. -/
  dropsSilent : Bool
  /-- Where reading fails in the body of a reply to a call. -/
  place : Call → List UInt8 → String := fun _ _ => ""

/-- What has come of a request. -/
structure Delivery where
  /-- Whether the service has received it. -/
  arrived : Bool
  /-- The status and the body of the reply, or why there is none. Nothing at all if the operation has
  been dropped. -/
  outcome : Option (Except Failure (Nat × List UInt8))
  /-- What the service will do with further requests. -/
  rest : List Reply

/-- Whether a status announces another reply. -/
def isInterim (status : Nat) : Bool := 100 ≤ status && status < 200 && status != 101

/-- The body that is received with a status. Replies of some statuses have none. -/
def receivedBody (status : Nat) (body : List UInt8) : List UInt8 :=
  if status = 101 ∨ status = 204 ∨ status = 304 then [] else body

/-- Send a request to a service that will do as the replies say, and close the connection after them. Each call
takes one reply, and a reply that only announces another is as good as none. Redirections that the library follows
on its own, and the requests that it sends on their account, do not show. -/
def Connection.deliver (c : Connection) (r : Request) (replies : List Reply) : Delivery :=
  if !r.isSendable then ⟨false, some (.error (.buildingFor r.url)), replies⟩
  else if !c.reaches r.url then ⟨false, some (.error (.sending r.url)), replies⟩
  else match replies with
    | [] => ⟨true, some (.error (.sending r.url)), []⟩
    | .answer status body :: rest =>
      if isInterim status then ⟨true, some (.error (.sending r.url)), rest⟩
      else ⟨true, some (.ok (status, receivedBody status body)), rest⟩
    | .cut :: rest => ⟨true, some (.error .decoding), rest⟩
    | .close :: rest => ⟨true, some (.error (.sending r.url)), rest⟩
    | .silence :: rest =>
      ⟨true, if c.dropsSilent then none else some (.error (.sending r.url)), rest⟩

/-! ### Exchanges -/

/-- What has come of a call. -/
structure Exchange (call : Call) where
  /-- The request, if the service has received it. -/
  request : Option Request
  /-- The data of the reply, or an error. Nothing at all if the operation has been dropped. -/
  outcome : Option (Except Error call.Data)
  /-- What the service will do with further requests. -/
  rest : List Reply

/-- The error that a failure on the way is. -/
def deliveryError (context : String) : Failure → Error
  | .decoding => .transport (context ++ " body read failed: " ++ Failure.decoding.message)
  | failure => .transport (context ++ " failed: " ++ failure.message)

/-- Make a call with a token. -/
def Connection.call (c : Connection) (client : Client) (call : Call) (token : Option String)
    (replies : List Reply) : Exchange call :=
  match client.request call token with
  | .error failure =>
    ⟨none, some (.error (.transport ("failed to build request: " ++ failure.message))), replies⟩
  | .ok request =>
    let delivery := c.deliver request replies
    { request := if delivery.arrived then some request else none
      rest := delivery.rest
      outcome := delivery.outcome.map fun
        | .error failure => .error (deliveryError request.context failure)
        | .ok (status, body) => call.read ⟨request.context, c.place call⟩ status body }

end OperatorDaemon.Service
