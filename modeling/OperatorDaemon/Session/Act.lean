import OperatorDaemon.Service.Reply
import OperatorDaemon.Session.Status
import OperatorDaemon.Wallet.Basic

/-!
# Operations and their effects

An operation works on the wallet and the session and exchanges requests with the service. What it does is
recorded as it goes. It may be dropped while it waits for a reply; then it has no result, and what it had
changed by then stays changed.
-/

namespace OperatorDaemon

open Service (Call Client Connection Exchange Reply Request)

/-- The session with the service. -/
structure Session where
  /-- The token that requests are made with. -/
  token : Option String := none
  /-- The belief about the registration of the node. -/
  status : Status := .unknown
  /-- When the service let the node in last. -/
  lastLogin : Option String := none
  deriving DecidableEq, Repr, Inhabited

/-- Something that an operation does. -/
inductive Event where
  /-- It begins to log in, with a wallet that is ready or not. -/
  | loginStarted (ready : Bool)
  /-- It makes a call, with a token or without one. -/
  | called (call : Call) (token : Option String) (exchange : Exchange call)

/-- The request that an event sent to the service. -/
def Event.request? : Event → Option Request
  | loginStarted _ => none
  | called _ _ exchange => exchange.request

/-- All that operations work on. -/
structure World where
  /-- The wallet. -/
  wallet : Wallet := {}
  /-- The files. -/
  disk : Disk := {}
  /-- The session. -/
  session : Session := {}
  /-- What the service will do with further requests. -/
  replies : List Reply := []
  /-- What has been done so far. -/
  log : List Event := []
  deriving Inhabited

namespace World

/-- The world with another session. -/
def withSession (w : World) (session : Session) : World :=
  { w with session }

/-- The world after one more event. -/
def record (w : World) (event : Event) : World :=
  { w with log := w.log ++ [event] }

/-- The requests that the service has received. -/
def requests (w : World) : List Request :=
  w.log.filterMap Event.request?

/-- A snapshot of the wallet. -/
def walletStatus (w : World) : Wallet.Status :=
  w.wallet.status w.disk

end World

/-- What an operation finds given. -/
structure Context where
  /-- The client of the service. -/
  client : Client
  /-- The way to the service. -/
  connection : Connection
  /-- The time. -/
  now : String

/-- An operation with a result, unless it is dropped. -/
def Act (α : Type) : Type := Context → World → Option α × World

namespace Act

variable {α β : Type}

instance : Monad Act where
  pure a _ w := (some a, w)
  bind x f context w :=
    match x context w with
    | (none, w) => (none, w)
    | (some a, w) => f a context w

theorem id_map_run (x : Act α) : id <$> x = x := by
  funext context w
  simp only [Functor.map]
  cases h : x context w with
  | mk result w => cases result <;> rfl

theorem bind_assoc_run {γ : Type} (x : Act α) (f : α → Act β) (g : β → Act γ) :
    (x >>= f) >>= g = x >>= fun a => f a >>= g := by
  funext context w
  simp only [bind]
  cases h : x context w with
  | mk result w => cases result <;> rfl

instance : LawfulMonad Act :=
  LawfulMonad.mk' Act id_map_run (fun _ _ => rfl) bind_assoc_run

/-- The world as it is. -/
def world : Act World := fun _ w => (some w, w)

/-- The time. -/
def now : Act String := fun context w => (some context.now, w)

/-- Change the session. -/
def modifySession (f : Session → Session) : Act Unit := fun _ w =>
  (some (), w.withSession (f w.session))

/-- Record an event. -/
def record (event : Event) : Act Unit := fun _ w => (some (), w.record event)

/-- Make a call in the name of the session. -/
def call (c : Call) : Act (Except Service.Error c.Data) := fun context w =>
  let token := if c.usesSession then w.session.token else none
  let exchange := context.connection.call context.client c token w.replies
  (exchange.outcome, { w with replies := exchange.rest }.record (.called c token exchange))

@[simp] theorem run_pure (a : α) (context : Context) (w : World) :
    (pure a : Act α) context w = (some a, w) := rfl

theorem run_bind (x : Act α) (f : α → Act β) (context : Context) (w : World) :
    (x >>= f) context w =
      match x context w with
      | (none, w) => (none, w)
      | (some a, w) => f a context w := rfl

@[simp] theorem run_map (f : α → β) (x : Act α) (context : Context) (w : World) :
    (f <$> x) context w = ((x context w).1.map f, (x context w).2) := by
  simp only [Functor.map]
  cases h : x context w with
  | mk result w => cases result <;> rfl

@[simp] theorem run_world (context : Context) (w : World) :
    world context w = (some w, w) := rfl

@[simp] theorem run_now (context : Context) (w : World) :
    now context w = (some context.now, w) := rfl

@[simp] theorem run_modifySession (f : Session → Session) (context : Context) (w : World) :
    modifySession f context w = (some (), w.withSession (f w.session)) := rfl

@[simp] theorem run_record (event : Event) (context : Context) (w : World) :
    record event context w = (some (), w.record event) := rfl

end Act

end OperatorDaemon
