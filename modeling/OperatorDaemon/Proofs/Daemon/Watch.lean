import Mathlib.Tactic.Common
import OperatorDaemon.Daemon.Watch
import OperatorDaemon.Proofs.Session.Waiting

/-!
# What the watch for the registration logs

The watcher polls, and logs what it does. If the service cannot be reached, every look goes like the first one: it
fails, leaves the wallet as it is and the status unknown, and so it is logged with the same entries again and again.
-/

namespace OperatorDaemon.Daemon

open Service (Call Client Error Exchange)

variable {context : Context} {w : World} {retry : Nat}

/-! ### Polls -/

/-- The watcher does nothing but poll. -/
theorem watch_fst (retry looks : Nat) : Prod.fst <$> watch retry looks = Act.poll looks := by
  induction looks with
  | zero => rfl
  | succ looks ih =>
    funext context w
    rw [Act.poll, Act.run_map, watch, Act.run_bind, Act.run_bind, ← ih]
    rcases hstatus : Act.registrationStatus context w with ⟨_ | ⟨status, error?⟩, w'⟩
    · simp [look, hstatus]
    · by_cases h : status = .registered
      · simp [look, hstatus, h]
      · simp only [look, hstatus, h, decide_false, Bool.false_eq_true, if_false, Act.run_bind, Act.run_map]
        rcases watch retry looks context w' with ⟨_ | ⟨waits, more⟩, w''⟩ <;> rfl

/-! ### A service that cannot be reached -/

/-- What a call comes to if nothing reaches the service. -/
def vainError (client : Client) (call : Call) (token : Option String) : Error :=
  match client.request call token with
  | .error failure => .transport ("failed to build request: " ++ failure.message)
  | .ok q => Service.deliveryError q.context (if q.isSendable then .sending q.url else .buildingFor q.url)

/-- A call that does not reach the service fails, and takes no reply. -/
lemma exchange_of_unreached (h : ∀ url, context.connection.reaches url = false) (call : Call) (token : Option String)
    (replies : List Service.Reply) :
    context.exchange call token replies = ⟨none, some (.error (vainError context.client call token)), replies⟩ := by
  rw [Context.exchange, Service.Connection.call, vainError]
  cases hrequest : context.client.request call token with
  | error failure => rfl
  | ok q =>
    dsimp only [Service.Connection.deliver]
    cases q.isSendable with
    | false => rfl
    | true =>
      rw [h]
      rfl

/-- What is logged of a look if the service cannot be reached. -/
def vainEntries (client : Client) (retry : Nat) (wallet : Wallet) : List Log.Entry :=
  match wallet.readyKey? with
  | none => [lookEntry retry none .noWallet]
  | some key =>
    let error := Error.during "getting nonce for login" (vainError client .nonce none)
    loggingInEntry key.address ::
      (((client.request .nonce none).toOption.map sendingEntry).toList ++ [lookEntry retry (some error) .unknown])

/-- A look at a service that cannot be reached fails, and leaves the wallet and what is not known. -/
lemma look_of_unreached (h : ∀ url, context.connection.reaches url = false) (hstatus : w.session.status.isKnown = false)
    (retry : Nat) :
    (look retry context w).1 = some (false, vainEntries context.client retry w.wallet) ∧
      (look retry context w).2.session.status.isKnown = false ∧ (look retry context w).2.wallet = w.wallet := by
  rw [look, vainEntries]
  cases hkey : w.wallet.readyKey? with
  | none =>
    rw [Act.registrationStatus_of_unready hstatus (Wallet.isReady_eq_false hkey)]
    refine ⟨?_, rfl, rfl⟩
    simp only [World.advance_log, List.drop_left]
    rfl
  | some key =>
    have hvain := exchange_of_unreached h .nonce none w.replies
    have haddress : w.wallet.address = key.address := (Wallet.readyKey?_eq_some hkey).2
    rw [World.registrationStatus_of_refused hstatus hkey (congrArg Exchange.outcome hvain)]
    refine ⟨?_, rfl, rfl⟩
    simp only [World.advance_log, List.drop_left, hvain, haddress]
    cases hrequest : context.client.request .nonce none with
    | error failure => simp [loginEntries, hrequest, outcomeEntries, Except.toOption]
    | ok q => simp [loginEntries, hrequest, outcomeEntries, Except.toOption]

/-- The watch of a service that cannot be reached goes on, and each look is logged like the first. -/
theorem watch_of_unreached (h : ∀ url, context.connection.reaches url = false)
    (hstatus : w.session.status.isKnown = false) (retry looks : Nat) :
    (watch retry looks context w).1 =
      some (true, (List.replicate looks (vainEntries context.client retry w.wallet)).flatten) := by
  induction looks generalizing w with
  | zero => rfl
  | succ looks ih =>
    obtain ⟨htold, hstatus', hwallet⟩ := look_of_unreached h hstatus retry
    rcases hlook : look retry context w with ⟨told?, w'⟩
    rw [hlook] at htold hstatus' hwallet
    dsimp only at htold hstatus' hwallet
    have hrest := ih hstatus'
    rcases hrun : watch retry looks context w' with ⟨rest?, w''⟩
    rw [hrun, hwallet] at hrest
    dsimp only at hrest
    simp [watch, Act.run_bind, hlook, htold, hrun, hrest, List.replicate_succ]

end OperatorDaemon.Daemon
