import OperatorDaemon.Log.Entry
import OperatorDaemon.Session.Gate

/-!
# Watching for the registration

Beside everything else the daemon looks at the registration status again and again, until the node is
registered or the daemon shuts down. Each look is logged, and so is the login that it takes.
-/

namespace OperatorDaemon.Daemon

open Service (Call Client Error)

/-! ### Entries of a login -/

def loggingInEntry (address : Address) : Log.Entry where
  level := .info
  part := .session
  message := "Not authenticated with the NodeSet server, logging in"
  details := [("address", .text address.checksummed)]

def sendingEntry (request : Service.Request) : Log.Entry where
  level := .debug
  part := .client
  message := "Sending NodeSet request"
  details := [("request", .text request.context)]

def challengedEntry (nonce : String) : Log.Entry where
  level := .debug
  part := .session
  message := "Got nonce for login"
  details := [("nonce", .text nonce)]

def admittedEntry : Log.Entry where
  level := .info
  part := .session
  message := "Logged into NodeSet server"

def strangerEntry (address : Address) : Log.Entry where
  level := .info
  part := .session
  message := "Node is not registered with NodeSet"
  details := [("address", .text address.checksummed)]

/-- What is logged when a call of a login has come to its end. -/
def outcomeEntries (address : Address) : (call : Call) → Option (Except Error call.Data) → List Log.Entry
  | .nonce, some (.ok challenge) => [challengedEntry challenge.nonce]
  | .login _, some (.ok _) => [admittedEntry]
  | .login _, some (.error .unregisteredNode) => [strangerEntry address]
  | _, _ => []

/-- What is logged about something that a login does, for the key with this address. -/
def loginEntries (client : Client) (address : Address) : Event → List Log.Entry
  -- Without a wallet that is fit for it, a login ends before it has begun.
  | .loginStarted ready => if ready then [loggingInEntry address] else []
  | .called call token exchange =>
    match client.request call token with
    | .error _ => outcomeEntries address call exchange.outcome
    | .ok request => sendingEntry request :: outcomeEntries address call exchange.outcome

/-! ### Looks -/

/-- What a look has told. Unless the node is registered, the next look is `retry` seconds away. -/
def lookEntry (retry : Nat) (error? : Option Error) : Status → Log.Entry
  | .registered =>
    { level := .info, message := "Node is registered with NodeSet" }
  | .unregistered =>
    { level := .info, part := .requirements, message := "Not registered with NodeSet yet"
      details := [("retry_secs", .number retry)] }
  | .noWallet =>
    { level := .info, part := .requirements
      message := "Can't check NodeSet registration status until node has a wallet"
      details := [("retry_secs", .number retry)] }
  | .unknown =>
    { level := .info, part := .requirements, message := "Can't check NodeSet registration status"
      details := [("retry_secs", .number retry), ("error", .text ((error?.map Error.message).getD ""))] }

/-- Look at the registration status, and tell whether the node is registered and what is logged. -/
def look (retry : Nat) : Act (Bool × List Log.Entry) := fun context before =>
  match Act.registrationStatus context before with
  | (none, after) => (none, after)
  | (some (status, error?), after) =>
    let events := after.log.drop before.log.length
    let entries := events.flatMap (loginEntries context.client before.wallet.address)
    (some (status = .registered, entries ++ [lookEntry retry error? status]), after)

/-- Look up to so many times, and tell whether the node was not registered at any of them and what is
logged. -/
def watch (retry : Nat) : (looks : Nat) → Act (Bool × List Log.Entry)
  | 0 => return (true, [])
  | looks + 1 => do
    let (registered, entries) ← look retry
    if registered then return (false, entries)
    else
      let (waits, more) ← watch retry looks
      return (waits, entries ++ more)

end OperatorDaemon.Daemon
