import Mathlib.Tactic.Common
import OperatorDaemon.Session.Act

/-!
# What comes of a call

The request of a call bears the authorization by its token, unless the URL of the service names a user. Two
requests of one call differ in nothing else. A call comes to an end unless the service may leave it hanging,
and the session is found to be invalid exactly by the replies that say so.
-/

namespace OperatorDaemon

open Service

/-! ### Requests -/

/-- Whether a URL names a user. -/
def Url.hasUserInfo (u : Url) : Bool := u.authority.any Url.Authority.hasUserInfo

@[simp] lemma Url.authority_extend (u : Url) (texts : List String) :
    (u.extend texts).authority = u.authority := by
  unfold Url.extend
  split <;> rfl

lemma Service.userInfo?_eq_none {url : Url} (h : url.hasUserInfo = false) :
    userInfo? url = none := by
  cases hauthority : url.authority with
  | none => simp [userInfo?, hauthority]
  | some authority =>
    simp only [Url.hasUserInfo, hauthority, Option.any_some] at h
    simp [userInfo?, hauthority, h]

namespace Service.Request

variable {method : Method} {url : Url} {token token' : Option String} {body : Option Json.Value}
  {q q' : Request}

lemma authorization_of_build (h : build method url token body = .ok q)
    (hurl : url.hasUserInfo = false) : q.authorization = token.map bearerAuthorization := by
  simp only [build, userInfo?_eq_none hurl] at h
  split_ifs at h
  cases h
  rfl

lemma body_of_build (h : build method url token body = .ok q) : q.body = body := by
  unfold build at h
  split_ifs at h
  cases h
  split <;> rfl

/-- The token has no part in a request but the authorization. -/
lemma build_congr (h : build method url token body = .ok q)
    (h' : build method url token' body = .ok q') :
    q'.method = q.method ∧ q'.url = q.url ∧ q'.body = q.body := by
  unfold build at h h'
  split_ifs at h h'
  cases h
  cases h'
  split <;> simp

end Service.Request

/-! ### Calls -/

namespace Service.Call

/-- The token that a call is made with in a session. -/
def tokenIn (c : Call) (s : Session) : Option String :=
  if c.usesSession then s.token else none

@[simp] lemma tokenIn_nonce (s : Session) : nonce.tokenIn s = none := rfl

lemma tokenIn_of_usesSession {c : Call} (h : c.usesSession) (s : Session) :
    c.tokenIn s = s.token := if_pos h

/-- Whether a call is one to a module of the service. -/
def isModule : Call → Bool
  | nonce | login _ | nodeAddress _ => false
  | _ => true

lemma usesSession_of_isModule {c : Call} (h : c.isModule) : c.usesSession := by
  cases c <;> simp_all [isModule, usesSession]

end Service.Call

namespace Context

/-- What comes of a call with some token. -/
def exchange (context : Context) (c : Call) (token : Option String) (replies : List Reply) :
    Exchange c :=
  context.connection.call context.client c token replies

/-- The status and the body of the reply to a call, if a whole reply comes. -/
def reply? (context : Context) (c : Call) (token : Option String) (replies : List Reply) :
    Option (Nat × List UInt8) :=
  match context.client.request c token with
  | .error _ => none
  | .ok request =>
    match (context.connection.deliver request replies).outcome with
    | some (.ok reply) => some reply
    | some (.error _) | none => none

variable {context : Context} {c : Call} {token token' : Option String} {replies replies' : List Reply}

lemma request_of_exchange {q : Request} (h : (context.exchange c token replies).request = some q) :
    context.client.request c token = .ok q := by
  unfold exchange Connection.call at h
  split at h
  · cases h
  · rename_i request hrequest
    dsimp only at h
    split_ifs at h
    rw [hrequest, Option.some.inj h]

/-- A request bears the body of its call. -/
lemma body_of_exchange {q : Request} (h : (context.exchange c token replies).request = some q) :
    q.body = c.body? := Request.body_of_build (request_of_exchange h)

/-- A request bears the authorization by its token. -/
lemma authorization_of_exchange {q : Request}
    (h : (context.exchange c token replies).request = some q)
    (hbase : context.client.base.hasUserInfo = false) (htoken : c = .nonce → token = none) :
    q.authorization = token.map bearerAuthorization := by
  have hq := Request.authorization_of_build (request_of_exchange h) (by
    simpa [Url.hasUserInfo, Client.endpoint] using hbase)
  cases c <;> simp_all [Call.usesSession]

/-- Two requests of one call have the same method, URL and body. -/
lemma request_congr {q q' : Request} (h : (context.exchange c token replies).request = some q)
    (h' : (context.exchange c token' replies').request = some q') :
    q'.method = q.method ∧ q'.url = q.url ∧ q'.body = q.body :=
  Request.build_congr (request_of_exchange h) (request_of_exchange h')

/-! ### Replies -/

lemma outcome_of_reply {status : Nat} {body : List UInt8}
    (h : context.reply? c token replies = some (status, body)) :
    ∃ label, (context.exchange c token replies).outcome = some (c.read label status body) := by
  unfold reply? at h
  unfold exchange Connection.call
  cases hrequest : context.client.request c token with
  | error failure => simp [hrequest] at h
  | ok request =>
    simp only [hrequest] at h
    refine ⟨⟨request.context, context.connection.place c⟩, ?_⟩
    split at h
    · rename_i reply hdelivery
      cases h
      simp [hdelivery]
    · cases h
    · cases h

lemma outcome_of_no_reply (h : context.reply? c token replies = none) :
    (context.exchange c token replies).outcome = none ∨
      ∃ text, (context.exchange c token replies).outcome = some (.error (.transport text)) := by
  unfold reply? at h
  unfold exchange Connection.call
  cases hrequest : context.client.request c token with
  | error failure => exact .inr ⟨_, rfl⟩
  | ok request =>
    simp only [hrequest] at h
    split at h
    · cases h
    · rename_i failure hdelivery
      right
      simp only [hdelivery, Option.map_some]
      cases failure <;> exact ⟨_, rfl⟩
    · rename_i hdelivery
      left
      simp [hdelivery]

end Context

/-- A request that is not left hanging comes to an end. -/
lemma Service.Connection.isSome_deliver {c : Connection} (h : c.dropsSilent = false) (q : Request)
    (replies : List Reply) : (c.deliver q replies).outcome.isSome := by
  unfold deliver
  split
  · rfl
  · split
    · rfl
    · split
      · rfl
      · split <;> rfl
      · rfl
      · rfl
      · simp [h]

/-- A call comes to an end unless the service may leave it hanging. -/
lemma Context.isSome_outcome {context : Context} (h : context.connection.dropsSilent = false)
    (c : Call) (token : Option String) (replies : List Reply) :
    (context.exchange c token replies).outcome.isSome := by
  unfold exchange Connection.call
  split
  · rfl
  · simp [Connection.isSome_deliver h]

/-! ### Invalid sessions -/

namespace Service

/-- Whether a reply says that the session is invalid: it is a refusal with the key for that, or one whose
status has to speak for itself and asks for credentials. -/
def SaysInvalidSession (status : Nat) (body : List UInt8) : Prop :=
  isSuccess status = false ∧
    match (Envelope.codec ignoredCodec).readBytes body with
    | .ok envelope => envelope.error = "invalid_session" ∨ envelope.error = "" ∧ status = 401
    | .error _ => status = 401

lemma Error.isInvalidSession_ofKey (status : Nat) (key text : String) :
    (Error.ofKey status key text).isInvalidSession ↔ key = "invalid_session" := by
  unfold Error.ofKey
  split <;> simp_all [Error.isInvalidSession, Error.root]

lemma Error.isInvalidSession_ofRefusal (status : Nat) (key text : String) :
    (Error.ofRefusal status key text).isInvalidSession ↔
      key = "invalid_session" ∨ key = "" ∧ status = 401 := by
  rw [Error.ofRefusal, Error.isInvalidSession_ofKey]
  split_ifs with h
  · simp_all
  · simp_all

lemma isInvalidSession_readRefusal (status : Nat) (body : List UInt8) :
    (readRefusal status body).isInvalidSession ↔
      match (Envelope.codec ignoredCodec).readBytes body with
      | .ok envelope => envelope.error = "invalid_session" ∨ envelope.error = "" ∧ status = 401
      | .error _ => status = 401 := by
  unfold readRefusal
  cases (Envelope.codec ignoredCodec).readBytes body <;> simp [Error.isInvalidSession_ofRefusal]

/-- What a call finds to be an invalid session is what the reply says to be one. -/
lemma Call.exists_read_isInvalidSession {c : Call} {label : ReplyLabel} {status : Nat}
    {body : List UInt8} :
    (∃ e, c.read label status body = .error e ∧ e.isInvalidSession) ↔
      SaysInvalidSession status body := by
  cases hs : isSuccess status with
  | false =>
    have hread : c.read label status body = .error (readRefusal status body) := by
      simp [Call.read, readEnvelope, hs]
    rw [SaysInvalidSession, ← isInvalidSession_readRefusal]
    simp [hread, hs]
  | true =>
    refine iff_of_false ?_ fun h => by simp [h.1] at hs
    rintro ⟨e, hread, he⟩
    rw [Call.read, readEnvelope, if_pos hs] at hread
    cases hbody : (Envelope.codec c.codec).readBytes body with
    | error failure =>
      simp only [hbody, Except.mapError] at hread
      cases hread
      exact absurd he (by simp [Error.isInvalidSession, Error.root])
    | ok envelope =>
      simp only [hbody, Except.mapError] at hread
      split at hread
      · cases hread
      · cases hread
        exact absurd he (by simp [Error.isInvalidSession, Error.root])

end Service

/-- A call is turned away by a reply that says that the session is invalid. -/
def Context.TurnsAway (context : Context) (c : Call) (token : Option String) (replies : List Reply) :
    Prop :=
  ∃ status body, context.reply? c token replies = some (status, body) ∧
    SaysInvalidSession status body

/-- A call finds the session to be invalid if it is turned away, and only then. -/
lemma Context.exists_outcome_isInvalidSession {context : Context} {c : Call} {token : Option String}
    {replies : List Reply} :
    (∃ e, (context.exchange c token replies).outcome = some (.error e) ∧ e.isInvalidSession) ↔
      context.TurnsAway c token replies := by
  unfold TurnsAway
  cases hreply : context.reply? c token replies with
  | none =>
    refine iff_of_false ?_ (by simp)
    rintro ⟨e, he, hinvalid⟩
    obtain hnone | ⟨text, htext⟩ := outcome_of_no_reply hreply
    · simp [hnone] at he
    · rw [htext] at he
      cases he
      exact absurd hinvalid (by simp [Error.isInvalidSession, Error.root])
  | some reply =>
    obtain ⟨status, body⟩ := reply
    obtain ⟨label, houtcome⟩ := outcome_of_reply hreply
    rw [houtcome]
    constructor
    · rintro ⟨e, he, hinvalid⟩
      exact ⟨status, body, rfl,
        Call.exists_read_isInvalidSession.mp ⟨e, Option.some.inj he, hinvalid⟩⟩
    · rintro ⟨status', body', h, hsays⟩
      cases h
      obtain ⟨e, he, hinvalid⟩ := Call.exists_read_isInvalidSession.mpr hsays
      exact ⟨e, by rw [he], hinvalid⟩

/-! ### Granted calls -/

namespace Service.Call

variable {c : Call} {label : ReplyLabel} {status status' : Nat} {body body' : List UInt8} {data : c.Data}

/-- A reply grants a call with some data: its status is one of success, and its envelope can be read and
holds the data. For a call that is not one for data it need not hold any. -/
def Grants (c : Call) (status : Nat) (body : List UInt8) (data : c.Data) : Prop :=
  isSuccess status ∧ ∃ envelope, (Envelope.codec c.codec).readBytes body = .ok envelope ∧
    (envelope.data <|> c.absentData?) = some data

lemma read_eq_ok : c.read label status body = .ok data ↔ c.Grants status body data := by
  unfold Grants read readEnvelope
  split_ifs with hstatus
  · cases (Envelope.codec c.codec).readBytes body with
    | error failure => simp [Except.mapError]
    | ok envelope =>
      simp only [Except.mapError, hstatus, true_and, Except.ok.injEq, exists_eq_left']
      cases envelope.data <|> c.absentData? <;> simp
  · simp [hstatus]

/-- What an envelope says besides its data makes no difference. -/
lemma read_congr {e e' : Envelope c.Data} (hstatus : isSuccess status) (hstatus' : isSuccess status')
    (he : (Envelope.codec c.codec).readBytes body = .ok e)
    (he' : (Envelope.codec c.codec).readBytes body' = .ok e') (hdata : e.data = e'.data) :
    c.read label status body = c.read label status' body' := by
  simp only [read, readEnvelope, hstatus, hstatus', if_true, he, he', Except.mapError, hdata]

end Service.Call

/-- The reply that comes to a call grants it with some data. -/
def Context.Grants (context : Context) (c : Call) (token : Option String) (replies : List Reply)
    (data : c.Data) : Prop :=
  ∃ status body, context.reply? c token replies = some (status, body) ∧ c.Grants status body data

lemma Context.outcome_eq_ok {context : Context} {c : Call} {token : Option String}
    {replies : List Reply} {data : c.Data} :
    (context.exchange c token replies).outcome = some (.ok data) ↔
      context.Grants c token replies data := by
  unfold Grants
  cases hreply : context.reply? c token replies with
  | none =>
    refine iff_of_false ?_ (by simp)
    obtain hnone | ⟨text, htext⟩ := outcome_of_no_reply hreply
    · simp [hnone]
    · simp [htext]
  | some reply =>
    obtain ⟨status, body⟩ := reply
    obtain ⟨label, houtcome⟩ := outcome_of_reply hreply
    rw [houtcome, Option.some.injEq, Call.read_eq_ok]
    constructor
    · exact fun h => ⟨status, body, rfl, h⟩
    · rintro ⟨_, _, ⟨⟩, h⟩
      exact h

/-! ### Accepted registrations -/

namespace Service

/-- Whether a reply accepts a registration: it is one of success, and the envelope in it can be read. -/
def AcceptsRegistration (status : Nat) (body : List UInt8) : Prop :=
  isSuccess status ∧ ∃ envelope, (Envelope.codec NoData.codec).readBytes body = .ok envelope

lemma Call.exists_grants_nodeAddress {r : NodeAddressRequest} {status : Nat} {body : List UInt8} :
    (∃ data, (nodeAddress r).Grants status body data) ↔ AcceptsRegistration status body := by
  constructor
  · rintro ⟨data, hstatus, envelope, hbody, -⟩
    exact ⟨hstatus, envelope, hbody⟩
  · rintro ⟨hstatus, envelope, hbody⟩
    cases hdata : envelope.data with
    | none => exact ⟨{}, hstatus, envelope, hbody, by rw [hdata]; rfl⟩
    | some data => exact ⟨data, hstatus, envelope, hbody, by rw [hdata]; rfl⟩

end Service

/-- A registration is accepted by the reply that comes. -/
def Context.Accepts (context : Context) (r : NodeAddressRequest) (token : Option String)
    (replies : List Reply) : Prop :=
  ∃ status body, context.reply? (.nodeAddress r) token replies = some (status, body) ∧
    AcceptsRegistration status body

/-- A registration succeeds if it is accepted, and only then. -/
lemma Context.exists_outcome_ok {context : Context} {r : NodeAddressRequest} {token : Option String}
    {replies : List Reply} :
    (∃ data, (context.exchange (.nodeAddress r) token replies).outcome = some (.ok data)) ↔
      context.Accepts r token replies := by
  constructor
  · rintro ⟨data, hdata⟩
    obtain ⟨status, body, hreply, hgrants⟩ := outcome_eq_ok.mp hdata
    exact ⟨status, body, hreply, Call.exists_grants_nodeAddress.mp ⟨data, hgrants⟩⟩
  · rintro ⟨status, body, hreply, haccepts⟩
    obtain ⟨data, hgrants⟩ := Call.exists_grants_nodeAddress.mpr haccepts
    exact ⟨data, outcome_eq_ok.mpr ⟨status, body, hreply, hgrants⟩⟩

/-! ### A service to run against -/

/-- A service without a user name in its URL. -/
def Service.Client.sample : Client where
  base :=
    { scheme := "http", authority := some { host := some (.name "nodeset") }, path := .segments []
      query := none, fragment := none }
  canBeBase := rfl

/-- A connection on which no request is lost or left hanging. -/
def Service.Connection.sample : Connection where
  reaches _ := true
  dropsSilent := false

/-- What an operation finds given on such a connection. -/
def Context.sample : Context := ⟨.sample, .sample, "noon"⟩

/-- A reply with data. -/
def Service.Reply.granting (data : String) : Reply :=
  .answer 200 (Utf8.bytes ("\x7b\"data\":" ++ data ++ "\x7d"))

/-- A refusal with a key. -/
def Service.Reply.refusing (key : String) : Reply :=
  .answer 400 (Utf8.bytes ("\x7b\"error\":\"" ++ key ++ "\"\x7d"))

/-- A challenge with the token `t`, and the grant of the token `g`. -/
def Service.Reply.login : List Reply :=
  [.granting "\x7b\"nonce\":\"n\",\"token\":\"t\"\x7d", .granting "\x7b\"token\":\"g\"\x7d"]

/-- A key. -/
def PrivateKey.sample : PrivateKey := ⟨1, by decide, by decide⟩

end OperatorDaemon
