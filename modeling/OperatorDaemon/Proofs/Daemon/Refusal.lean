import OperatorDaemon.Proofs.Daemon.Identity

/-!
# A node that turns out to be registered already

The service may refuse a registration because the node belongs to a user already. For the session this is a
failure like any other: what a login has found out stays, and any other status becomes unknown. So the next
look at the status asks the service again, unless there is no wallet to log in with or a login has found the
node to be unregistered before.
-/

namespace OperatorDaemon

open Daemon (Turn)
open Service (Client Connection Error Exchange Reply)

/-! ### Registrations that are refused -/

/-- A registration, on some connection and at some time. -/
abbrev Daemon.Turn.registration (email : String) (connection : Connection) (replies : List Reply)
    (now : String) : Turn :=
  { task := .register email, connection, replies, now }

lemma Registration.eq_alreadyRegistered_of_ofRefusal {e : Error}
    (h : ofRefusal e = .ok .alreadyRegistered) : e = .alreadyRegistered := by
  unfold ofRefusal at h
  split at h <;> simp_all

/-- A registration that is refused because the node is registered already has been made once, and it raises
the doubt that any failure raises. -/
lemma Act.register_of_alreadyRegistered {text : String} {context : Context} {w w' : World}
    (h : register text context w = (some (.ok .alreadyRegistered), w')) :
    ∃ (key : PrivateKey) (email : String) (x : Exchange (.nodeAddress (.signed key email))),
      x.outcome = some (.error .alreadyRegistered) ∧
        w' = w.advance [.called _ w.session.token x] x.rest w.session.withDoubt := by
  obtain ⟨key, email, hrule⟩ := RegisterRule.of_register h
  generalize hresult : some (Except.ok Registration.alreadyRegistered) = result at hrule
  cases hrule with
  | dropped x hx hreply => cases hresult
  | refused x e hx hreply =>
    obtain rfl := Registration.eq_alreadyRegistered_of_ofRefusal (Option.some.inj hresult).symm
    exact ⟨key, email, x, hreply, rfl⟩
  | accepted x data login w' hx hreply hlogin => cases login <;> cases hresult

lemma Daemon.Turn.take_registration_of_alreadyRegistered {client : Client} {w : World} {email now : String}
    {connection : Connection} {replies : List Reply}
    (h : ((registration email connection replies now).take client w).1 =
      some (.ok .alreadyRegistered)) :
    ∃ events, ((registration email connection replies now).take client w).2 =
      w.advance events [] w.session.withDoubt := by
  rcases hrun : Act.register email ⟨client, connection, now⟩ { w with replies } with ⟨result, w'⟩
  simp only [take_eq, Task.act, hrun] at h ⊢
  subst h
  obtain ⟨key, text, x, -, rfl⟩ := Act.register_of_alreadyRegistered hrun
  exact ⟨_, rfl⟩

/-! ### The next look -/

lemma Status.after_failed_of_isKnown {s : Status} (h : s.isKnown) : s.after .failed = s := by
  cases s <;> first | rfl | cases h

lemma Status.after_failed_of_not_isKnown {s : Status} (h : s.isKnown = false) :
    s.after .failed = .unknown := by
  cases s <;> first | rfl | cases h

lemma Wallet.isSome_readyKey? {wallet : Wallet} (h : wallet.isReady) : wallet.readyKey?.isSome := by
  rw [readyKey?, if_pos h]
  simp only [isReady, status, Status.isReady, Bool.and_eq_true] at h
  exact h.1.1

/-- An attempt to log in with a wallet that is ready begins with a call for a challenge. -/
lemma LogInRule.asks {context : Context} {w w' : World} {result : Option (Except Error Unit)}
    (h : LogInRule context w result w') (hready : w.wallet.isReady) :
    w.log ++ [.loginStarted true, .called .nonce none (context.exchange .nonce none w.replies)] <+:
      w'.log := by
  have hchallenged {key : PrivateKey} {challenge : Service.Challenge} {n : Exchange .nonce}
      {l : Exchange (.login (.answering key challenge))} (h : Challenged context w key challenge n l) :
      w.log ++ [.loginStarted true, .called .nonce none (context.exchange .nonce none w.replies)] <+:
        w.log ++ loginEvents n challenge.token l := by
    rw [← h.asked, loginEvents]
    exact ⟨[.called _ (some challenge.token) l], by simp⟩
  cases h with
  | unready hkey => simpa [hkey] using Wallet.isSome_readyKey? hready
  | challengeDropped key n hkey hn h => exact hn ▸ List.prefix_refl _
  | challengeRefused key n e hkey hn h => exact hn ▸ List.prefix_refl _
  | answerDropped key challenge n l h hl => exact hchallenged h
  | admitted key challenge n l grant h hl => exact hchallenged h
  | unregistered key challenge n l h hl => exact hchallenged h
  | walletMissing key challenge n l h hl => exact hchallenged h
  | answerRefused key challenge n l e h hl hu hw => exact hchallenged h

namespace Daemon.Turn

variable {client : Client} {w : World} {connection : Connection} {replies : List Reply} {now : String}

/-- A look asks the service if the status is not known and the wallet is ready. -/
lemma asks_look (hstatus : w.session.status.isKnown = false) (hready : w.wallet.isReady) :
    w.log ++ [.loginStarted true, .called .nonce none
        (Context.exchange ⟨client, connection, now⟩ .nonce none replies)] <+:
      ((look connection replies now).take client w).2.log := by
  have hrule : LookUpRule ⟨client, connection, now⟩ { w with replies }
      (Act.registrationStatus ⟨client, connection, now⟩ { w with replies }).1
      (Act.registrationStatus ⟨client, connection, now⟩ { w with replies }).2 :=
    .of_registrationStatus rfl
  change _ <+: (Act.registrationStatus ⟨client, connection, now⟩ { w with replies }).2.log
  generalize (Act.registrationStatus ⟨client, connection, now⟩ { w with replies }).1 = result at hrule
  generalize (Act.registrationStatus ⟨client, connection, now⟩ { w with replies }).2 = w' at hrule ⊢
  cases hrule with
  | known h => simp [hstatus] at h
  | dropped w' h hlogin => exact hlogin.asks hready
  | completed w' h hlogin => exact hlogin.asks hready
  | failed e w' h hlogin => exact hlogin.asks hready

/-- A look tells a status that is known, and does nothing. -/
lemma take_look_of_isKnown (h : w.session.status.isKnown) :
    (look connection replies now).take client w =
      (some (w.session.status, none), { w with replies := [] }) := by
  simp [take, Task.act, Act.registrationStatus_of_isKnown (w := { w with replies }) h]

/-- A look tells that the wallet is not ready, and makes no call. -/
lemma take_look_of_unready (h : w.session.status.isKnown = false) (hwallet : w.wallet.isReady = false) :
    (look connection replies now).take client w =
      (some (.noWallet, some .walletNotReady),
        w.advance [.loginStarted false] [] (w.session.withStatus .noWallet)) := by
  simp only [take, Task.act]
  rw [Act.registrationStatus_of_unready (w := { w with replies }) h hwallet]
  rfl

end Daemon.Turn

/-- After a registration that is refused because the node is registered already, a status that a login has
established is the same as before, and any other is unknown; so the node is believed to be unregistered only if
it was before. Then the next look tells so and does nothing. Otherwise the next look tells that the node is
registered, or asks the service again, or finds that the wallet is not ready. -/
theorem status_of_alreadyRegistered {client : Client} {w : World} {email now : String}
    {connection : Connection} {replies : List Reply}
    (h : ((Turn.registration email connection replies now).take client w).1 =
      some (.ok .alreadyRegistered)) :
    let w' := ((Turn.registration email connection replies now).take client w).2
    w'.session.status = w.session.status.after .failed ∧
      (w'.session.status = .unregistered ↔ w.session.status = .unregistered) ∧
      ∀ connection' replies' now',
        let next := (Turn.look connection' replies' now').take client w'
        (w.session.status.isKnown → next = (some (w.session.status, none), w')) ∧
          (w.session.status.isKnown = false → w.wallet.isReady →
            w'.log ++ [.loginStarted true, .called .nonce none
              (Context.exchange ⟨client, connection', now'⟩ .nonce none replies')] <+: next.2.log) ∧
          (w.session.status.isKnown = false → w.wallet.isReady = false →
            next = (some (.noWallet, some .walletNotReady),
              w'.advance [.loginStarted false] [] (w'.session.withStatus .noWallet))) := by
  intro w'
  obtain ⟨events, hw'⟩ :
      ∃ events, w' = w.advance events [] w.session.withDoubt :=
    Turn.take_registration_of_alreadyRegistered h
  -- From here on all that counts is what the registration has made of the session.
  clear_value w'
  have hstatus : w'.session.status = w.session.status.after .failed := by
    rw [hw', World.advance_session, Session.withDoubt_status]
  have hwallet : w'.wallet = w.wallet := by rw [hw', World.advance_wallet]
  have hreplies : w'.replies = [] := by rw [hw', World.advance_replies]
  refine ⟨hstatus, ?_, fun connection' replies' now' => ⟨fun hknown => ?_, fun hunknown hready => ?_,
    fun hunknown hready => ?_⟩⟩
  · rw [hstatus]
    cases w.session.status <;> simp [Status.after]
  · have hsame : w'.session.status = w.session.status := by
      rw [hstatus, Status.after_failed_of_isKnown hknown]
    rw [Turn.take_look_of_isKnown (hsame ▸ hknown), hsame, ← hreplies]
  · refine Turn.asks_look ?_ (hwallet ▸ hready)
    rw [hstatus, Status.after_failed_of_not_isKnown hunknown]
    rfl
  · refine Turn.take_look_of_unready ?_ (hwallet ▸ hready)
    rw [hstatus, Status.after_failed_of_not_isKnown hunknown]
    rfl

/-- A registration that is refused because the node is registered already. -/
abbrev Daemon.Turn.registeredBefore : Turn :=
  .registration "a@b" .sample [.refusing "already_registered"] "noon"

/-- Before the first login the status is unknown after such a registration, and the next look makes a call. -/
theorem status_of_alreadyRegistered_unknown :
    let w : World := { wallet := Wallet.empty.load .sample }
    let w' := (Turn.registeredBefore.take .sample w).2
    (Turn.registeredBefore.take .sample w).1 = some (.ok .alreadyRegistered) ∧
      w'.session.status = .unknown ∧
      w'.log.length + 2 ≤ ((Turn.look .sample [] "later").take .sample w').2.log.length := by
  intro w
  have hresult : (Turn.registeredBefore.take .sample w).1 = some (.ok .alreadyRegistered) := by
    decide +kernel
  have hready : w.wallet.isReady := (Wallet.readyKey?_eq_some (Wallet.readyKey?_load _ .sample)).1
  have hnext := status_of_alreadyRegistered hresult
  generalize (Turn.registeredBefore.take .sample w).2 = w' at hnext ⊢
  obtain ⟨hstatus, -, hnext⟩ := hnext
  obtain ⟨-, hasks, -⟩ := hnext .sample [] "later"
  refine ⟨hresult, hstatus, ?_⟩
  simpa using (hasks rfl hready).length_le

/-- A login that finds that the node is not registered. -/
def Daemon.Turn.foundUnregistered : Turn where
  task := .logIn
  connection := .sample
  replies := [.granting "\x7b\"nonce\":\"n\",\"token\":\"t\"\x7d", .refusing "unregistered_node"]
  now := "noon"

/-- The node address becomes one that is not that of the key. -/
def Daemon.Turn.mismatching : Turn where
  task := .setAddress Address.zero
  connection := .sample
  now := "noon"

/-- A login finds that the node is not registered, and a registration is refused because it is: the next look
tells that it is not, and makes no call. With a node address that is not that of the key such a registration
leaves the status unknown, and the next look tells that the wallet is not ready and makes no call either. -/
theorem unregistered_of_alreadyRegistered :
    (let w := Turn.takeAll .sample [.foundUnregistered] { wallet := Wallet.empty.load .sample }
      let w' := (Turn.registeredBefore.take .sample w).2
      let next := (Turn.look .sample Reply.login "later").take .sample w'
      (Turn.registeredBefore.take .sample w).1 = some (Except.ok Registration.alreadyRegistered) ∧
        w'.session.status = .unregistered ∧ next.1 = some (Status.unregistered, none) ∧
        next.2.log.length = w'.log.length) ∧
      let w := Turn.takeAll .sample [.mismatching] { wallet := Wallet.empty.load .sample }
      let w' := (Turn.registeredBefore.take .sample w).2
      let next := (Turn.look .sample Reply.login "later").take .sample w'
      (Turn.registeredBefore.take .sample w).1 = some (Except.ok Registration.alreadyRegistered) ∧
        w'.session.status = .unknown ∧
        next.1 = some (Status.noWallet, some Error.walletNotReady) ∧
        next.2.requests.length = w'.requests.length := by
  constructor
  · decide +kernel
  · decide +kernel

end OperatorDaemon
