import OperatorDaemon.Proofs.Service.Exchange

/-!
# Calls that differ in their tokens

Two replies to a call for a challenge are alike if both bring the same challenge, each with a token that fits
into a header; two replies to the answer of a challenge, if both bring such a token. Calls with such tokens that
meet such replies differ in the values of the authorizations and in the tokens that they bring, and in nothing
else.
-/

namespace OperatorDaemon

namespace Service

/-! ### Requests -/

/-- Two tokens are alike: they are the same, or both fit into a header. -/
inductive TokensAlike : Option String → Option String → Prop where
  /-- They are the same. -/
  | same (token : Option String) : TokensAlike token token
  /-- Both fit into a header. -/
  | legal (token token' : String) (h : isHeaderText token) (h' : isHeaderText token') :
      TokensAlike (some token) (some token')

/-- A request without the value of its authorization. -/
def Request.anonymous (q : Request) : Request :=
  { q with authorization := q.authorization.map fun _ => "" }

@[simp] lemma Request.url_anonymous (q : Request) : q.anonymous.url = q.url := rfl

@[simp] lemma Request.context_anonymous (q : Request) : q.anonymous.context = q.context := rfl

section

variable {token token' : Option String}

/-- With alike tokens a request is built or not, and but for the authorization it is the same. -/
lemma Request.anonymous_build (h : TokensAlike token token') (method : Method) (url : Url)
    (body : Option Json.Value) :
    (build method url token body).map anonymous = (build method url token' body).map anonymous := by
  cases h with
  | same => rfl
  | legal token token' h h' =>
    unfold build
    split
    · rfl
    · simp only [Option.all_some, h, h', Bool.not_true, Bool.false_eq_true, if_false]
      cases userInfo? url <;> rfl

lemma Client.anonymous_request (h : TokensAlike token token') (client : Client) (c : Call) :
    (client.request c token).map Request.anonymous =
      (client.request c token').map Request.anonymous := by
  refine Request.anonymous_build ?_ _ _ _
  split
  · exact h
  · exact .same none

end

/-! ### Replies -/

/-- The data of two replies to a call are alike: but for the tokens they are the same, and the tokens fit into
a header. Data without tokens are not said to be alike. -/
def Call.DataAlike : (c : Call) → c.Data → c.Data → Prop
  | .nonce, challenge, challenge' =>
    challenge.nonce = challenge'.nonce ∧ isHeaderText challenge.token ∧ isHeaderText challenge'.token
  | .login _, grant, grant' => isHeaderText grant.token ∧ isHeaderText grant'.token
  | _, _, _ => False

/-- The outcomes of two calls are alike: they are the same, or data that are alike. -/
inductive Call.OutcomesAlike (c : Call) : Except Error c.Data → Except Error c.Data → Prop where
  /-- They are the same. -/
  | same (outcome : Except Error c.Data) : c.OutcomesAlike outcome outcome
  /-- They are data that are alike. -/
  | tokens (data data' : c.Data) (h : c.DataAlike data data') : c.OutcomesAlike (.ok data) (.ok data')

/-- The outcomes of calls to modules are alike only if they are the same. -/
lemma Call.OutcomesAlike.eq {c : Call} {outcome outcome' : Except Error c.Data}
    (h : c.OutcomesAlike outcome outcome') (hc : c ≠ .nonce) (hlogin : ∀ r, c ≠ .login r) :
    outcome = outcome' := by
  cases h with
  | same => rfl
  | tokens data data' h =>
    cases c with
    | nonce => exact absurd rfl hc
    | login r => exact absurd rfl (hlogin r)
    | _ => exact h.elim

/-- A reply brings the data of a call: it is a whole one, and grants the call with them. -/
def Reply.Brings (c : Call) (data : c.Data) : Reply → Prop
  | .answer status body =>
    isInterim status = false ∧ c.Grants status (receivedBody status body) data
  | .cut | .close | .silence => False

/-- Two replies to a call are alike: they are the same, or they bring data that are alike. -/
inductive Reply.Alike (c : Call) : Reply → Reply → Prop where
  /-- They are the same. -/
  | same (reply : Reply) : Alike c reply reply
  /-- They bring data that are alike. -/
  | tokens (reply reply' : Reply) (data data' : c.Data) (h : reply.Brings c data)
      (h' : reply'.Brings c data') (hdata : c.DataAlike data data') : Alike c reply reply'

/-- Two scripts of replies are alike for some calls that reach the service: the replies to each call are, as
long as there are any. What is left over may differ. -/
inductive ScriptsAlike : List Call → List Reply → List Reply → Prop where
  /-- There are no more calls. -/
  | unused (replies replies' : List Reply) (h : replies.length = replies'.length) :
      ScriptsAlike [] replies replies'
  /-- There are no more replies. -/
  | exhausted (calls : List Call) : ScriptsAlike calls [] []
  /-- A call meets replies that are alike. -/
  | cons (c : Call) (calls : List Call) (reply reply' : Reply) (replies replies' : List Reply)
      (h : reply.Alike c reply') (hrest : ScriptsAlike calls replies replies') :
      ScriptsAlike (c :: calls) (reply :: replies) (reply' :: replies')

lemma ScriptsAlike.length_eq {calls : List Call} {replies replies' : List Reply}
    (h : ScriptsAlike calls replies replies') : replies.length = replies'.length := by
  induction h with
  | unused replies replies' h => exact h
  | exhausted calls => rfl
  | cons c calls reply reply' replies replies' h hrest ih => simp [ih]

/-! ### Delivery -/

namespace Connection

/-- What a request for a URL meets with a reply. -/
def meets (connection : Connection) (url : Url) : Reply → Option (Except Failure (Nat × List UInt8))
  | .answer status body =>
    if isInterim status then some (.error (.sending url))
    else some (.ok (status, receivedBody status body))
  | .cut => some (.error .decoding)
  | .close => some (.error (.sending url))
  | .silence => if connection.dropsSilent then none else some (.error (.sending url))

variable {connection : Connection} {q q' : Request}

lemma deliver_congr (hurl : q.url = q'.url) : connection.deliver q = connection.deliver q' := by
  cases q
  cases q'
  cases hurl
  rfl

/-- A request that is not sent leaves all replies to others. One that is sent meets the next reply, if there is
one. -/
lemma deliver_cases (connection : Connection) (q : Request) :
    (∃ failure, ∀ replies, connection.deliver q replies = ⟨false, some (.error failure), replies⟩) ∨
      connection.deliver q [] = ⟨true, some (.error (.sending q.url)), []⟩ ∧
        ∀ reply replies,
          connection.deliver q (reply :: replies) = ⟨true, connection.meets q.url reply, replies⟩ := by
  unfold deliver
  split
  · exact .inl ⟨_, fun _ => rfl⟩
  · split
    · exact .inl ⟨_, fun _ => rfl⟩
    · refine .inr ⟨rfl, fun reply replies => ?_⟩
      cases reply with
      | answer status body => cases h : isInterim status <;> simp [meets, h]
      | cut => rfl
      | close => rfl
      | silence => rfl

end Connection

/-! ### Exchanges -/

/-- What has come of a call by the delivery of its request. -/
def Delivery.toExchange (d : Delivery) (place : List UInt8 → String) (c : Call) (q : Request) : Exchange c where
  request := if d.arrived then some q else none
  outcome := d.outcome.map fun
    | .error failure => .error (deliveryError q.context failure)
    | .ok (status, body) => c.read ⟨q.context, place⟩ status body
  rest := d.rest

/-- Two exchanges of a call are alike: but for the authorization the requests are the same, the outcomes are
alike, and so are the replies left over for further calls. -/
structure Exchange.Alike {c : Call} (calls : List Call) (x x' : Exchange c) : Prop where
  request : x.request.map Request.anonymous = x'.request.map Request.anonymous
  outcome : Option.Rel c.OutcomesAlike x.outcome x'.outcome
  rest : ScriptsAlike calls x.rest x'.rest

lemma Call.OutcomesAlike.rel_refl {c : Call} (outcome? : Option (Except Error c.Data)) :
    Option.Rel c.OutcomesAlike outcome? outcome? := by
  cases outcome? with
  | none => exact .none
  | some outcome => exact .some (.same outcome)

section

variable {c : Call} {calls : List Call} {q q' : Request} {place : List UInt8 → String}

/-- The same delivery of requests that differ in their authorizations. -/
lemma Delivery.alike_toExchange (hq : q.anonymous = q'.anonymous) (arrived : Bool)
    (outcome : Option (Except Failure (Nat × List UInt8))) {rest rest' : List Reply}
    (h : ScriptsAlike calls rest rest') :
    ((⟨arrived, outcome, rest⟩ : Delivery).toExchange place c q).Alike calls
      ((⟨arrived, outcome, rest'⟩ : Delivery).toExchange place c q') where
  request := by cases arrived <;> simp [toExchange, hq]
  outcome := by
    have hcontext : q.context = q'.context := by
      rw [← Request.context_anonymous, hq, Request.context_anonymous]
    simp only [toExchange, hcontext]
    exact Call.OutcomesAlike.rel_refl _
  rest := h

lemma Reply.Brings.outcome_eq {reply : Reply} {data : c.Data} (h : reply.Brings c data)
    (connection : Connection) (url : Url) (rest : List Reply) :
    ((⟨true, connection.meets url reply, rest⟩ : Delivery).toExchange place c q).outcome =
      some (.ok data) := by
  cases reply with
  | answer status body =>
    simp [Delivery.toExchange, Connection.meets, h.1, Call.read_eq_ok.mpr h.2]
  | cut | close | silence => exact h.elim

/-- Requests that differ in their authorizations meet alike replies. -/
lemma Delivery.alike_meets (hq : q.anonymous = q'.anonymous) (connection : Connection) (url : Url)
    {reply reply' : Reply} (h : reply.Alike c reply') {rest rest' : List Reply}
    (hrest : ScriptsAlike calls rest rest') :
    ((⟨true, connection.meets url reply, rest⟩ : Delivery).toExchange place c q).Alike calls
      ((⟨true, connection.meets url reply', rest'⟩ : Delivery).toExchange place c q') := by
  cases h with
  | same => exact alike_toExchange hq true _ hrest
  | tokens reply' data data' h h' hdata =>
    refine ⟨by simp [toExchange, hq], ?_, hrest⟩
    rw [h.outcome_eq, h'.outcome_eq]
    exact .some (.tokens data data' hdata)

end

end Service

section

open Service

variable {context : Context} {c : Call} {token token' : Option String} {replies replies' : List Reply}
  {calls : List Call} {q q' : Request}

lemma Context.exchange_of_ok (h : context.client.request c token = .ok q) :
    context.exchange c token replies = (context.connection.deliver q replies).toExchange (context.connection.place c) c q := by
  simp only [exchange, Connection.call, h]
  rfl

lemma Context.exchange_of_error {failure : Failure} (h : context.client.request c token = .error failure) :
    context.exchange c token replies =
      ⟨none, some (.error (.transport ("failed to build request: " ++ failure.message))), replies⟩ := by
  simp only [exchange, Connection.call, h]

/-- Calls with alike tokens that meet alike replies come to something alike. -/
theorem Context.exchange_alike (htoken : TokensAlike token token')
    (hscripts : ScriptsAlike
      ((if (context.exchange c token replies).request.isSome then [c] else []) ++ calls) replies replies') :
    (context.exchange c token replies).Alike calls (context.exchange c token' replies') := by
  have hrequest := context.client.anonymous_request htoken c
  -- Whether there is a request does not depend on the token, so two of the four cases do not occur.
  cases hq : context.client.request c token with
  | error failure =>
    cases hq' : context.client.request c token' with
    | ok q' => simp [hq, hq', Except.map] at hrequest
    | error failure' =>
      simp only [hq, hq', Except.map, Except.error.injEq] at hrequest
      rw [exchange_of_error hq] at hscripts ⊢
      rw [exchange_of_error hq', hrequest]
      exact ⟨rfl, Call.OutcomesAlike.rel_refl _, by simpa using hscripts⟩
  | ok q =>
    cases hq' : context.client.request c token' with
    | error failure' => simp [hq, hq', Except.map] at hrequest
    | ok q' =>
      simp only [hq, hq', Except.map, Except.ok.injEq] at hrequest
      have hdeliver : context.connection.deliver q' = context.connection.deliver q := by
        refine Connection.deliver_congr ?_
        rw [← Request.url_anonymous, ← hrequest, Request.url_anonymous]
      rw [exchange_of_ok hq] at hscripts ⊢
      rw [exchange_of_ok hq', hdeliver]
      obtain ⟨failure, hunsent⟩ | ⟨hempty, hmeets⟩ := context.connection.deliver_cases q
      · simp only [hunsent, Delivery.toExchange] at hscripts
        simp only [hunsent]
        exact Delivery.alike_toExchange hrequest false _ (by simpa using hscripts)
      · cases replies with
        | nil =>
          obtain rfl : replies' = [] := List.length_eq_zero_iff.mp hscripts.length_eq.symm
          rw [hempty]
          exact Delivery.alike_toExchange hrequest true _ (.exhausted calls)
        | cons reply replies =>
          rw [hmeets] at hscripts
          cases hscripts with
          | cons _ _ _ reply' _ replies' hreply hrest =>
            rw [hmeets, hmeets]
            exact Delivery.alike_meets hrequest _ _ hreply hrest

end

end OperatorDaemon
