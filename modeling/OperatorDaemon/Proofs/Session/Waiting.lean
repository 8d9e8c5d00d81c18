import Mathlib.Logic.Function.Iterate
import Mathlib.Order.Basic
import OperatorDaemon.Proofs.Api.Look

/-!
# Waiting for the registration

To wait is to look at the registration status again and again, until a look tells that the node is registered
or the daemon is shut down. What a look tells depends on what the looks before it have left, and a look that
tells that the node is not registered settles the matter: no look after it does anything.
-/

namespace OperatorDaemon

open Service (Call Connection Error Exchange Reply Request)

/-! ### Replies that are used up -/

/-- A request uses up a reply, or it fails and leaves the replies as they are. -/
lemma Service.Connection.rest_of_deliver (c : Connection) (q : Request) (replies : List Reply) :
    (c.deliver q replies).rest.length < replies.length ∨
      (c.deliver q replies).rest = replies ∧
        ∃ failure, (c.deliver q replies).outcome = some (.error failure) := by
  unfold deliver
  split
  · exact .inr ⟨rfl, _, rfl⟩
  · split
    · exact .inr ⟨rfl, _, rfl⟩
    · split
      · exact .inr ⟨rfl, _, rfl⟩
      · left
        split <;> exact Nat.lt_succ_self _
      all_goals exact .inl (Nat.lt_succ_self _)

/-- A call uses up a reply, or it fails and leaves the replies as they are. -/
lemma Context.rest_of_exchange (context : Context) (c : Call) (token : Option String)
    (replies : List Reply) :
    (context.exchange c token replies).rest.length < replies.length ∨
      (context.exchange c token replies).rest = replies ∧
        ∃ e, (context.exchange c token replies).outcome = some (.error e) := by
  unfold exchange Connection.call
  split
  · exact .inr ⟨rfl, _, rfl⟩
  · rename_i q hq
    obtain hless | ⟨hsame, failure, hfailure⟩ := context.connection.rest_of_deliver q replies
    · exact .inl hless
    · exact .inr ⟨hsame, Service.deliveryError q.context failure, by simp only [hfailure, Option.map_some]⟩

/-- A call that is granted uses up a reply. -/
lemma Context.rest_lt_of_ok {context : Context} {c : Call} {token : Option String} {replies : List Reply}
    {data : c.Data} (h : (context.exchange c token replies).outcome = some (.ok data)) :
    (context.exchange c token replies).rest.length < replies.length := by
  obtain hless | ⟨-, e, he⟩ := context.rest_of_exchange c token replies
  · exact hless
  · rw [h] at he
    cases he

lemma Context.rest_le (context : Context) (c : Call) (token : Option String) (replies : List Reply) :
    (context.exchange c token replies).rest.length ≤ replies.length := by
  obtain hless | ⟨hsame, -⟩ := context.rest_of_exchange c token replies
  · exact Nat.le_of_lt hless
  · exact Nat.le_of_eq (congrArg List.length hsame)

/-- The answer to a challenge leaves fewer replies than there were before the challenge. -/
lemma Challenged.rest_lt {context : Context} {w : World} {key : PrivateKey} {challenge : Service.Challenge}
    {n : Exchange .nonce} {l : Exchange (.login (.answering key challenge))}
    (h : Challenged context w key challenge n l) : l.rest.length < w.replies.length := by
  obtain ⟨-, rfl, hcame, rfl⟩ := h
  exact Nat.lt_of_le_of_lt (context.rest_le _ _ _) (Context.rest_lt_of_ok hcame)

/-! ### Looks -/

namespace World

/-- The world after some looks at the registration status. -/
def afterLooks (w : World) (context : Context) (looks : Nat) : World :=
  (fun w => (Act.registrationStatus context w).2)^[looks] w

/-- The status that the next look tells, unless it is dropped. -/
def told? (w : World) (context : Context) : Option Status :=
  (Act.registrationStatus context w).1.map Prod.fst

/-- The requests that the next look sends. -/
def lookRequests (w : World) (context : Context) : List Request :=
  (Act.registrationStatus context w).2.requests.drop w.requests.length

/-- So many looks tell something else than that the node is registered. -/
def Waits (w : World) (context : Context) (looks : Nat) : Prop :=
  ∀ k < looks, ∃ status, (w.afterLooks context k).told? context = some status ∧ status ≠ .registered

variable {context : Context} {w : World} {k : Nat}

@[simp] lemma afterLooks_zero (w : World) (context : Context) : w.afterLooks context 0 = w := rfl

lemma afterLooks_one (w : World) (context : Context) :
    w.afterLooks context 1 = (Act.registrationStatus context w).2 := rfl

lemma afterLooks_add (w : World) (context : Context) (k n : Nat) :
    w.afterLooks context (k + n) = (w.afterLooks context k).afterLooks context n := by
  rw [Nat.add_comm]
  exact Function.iterate_add_apply _ n k w

lemma Waits.mono {n : Nat} (h : w.Waits context n) (hk : k ≤ n) : w.Waits context k :=
  fun j hj => h j (Nat.lt_of_lt_of_le hj hk)

/-- The first look and the looks after it. -/
lemma waits_succ : w.Waits context (k + 1) ↔
    (∃ status, w.told? context = some status ∧ status ≠ .registered) ∧
      (w.afterLooks context 1).Waits context k := by
  constructor
  · intro h
    refine ⟨h 0 k.succ_pos, fun j hj => ?_⟩
    have hnext := h (1 + j) (by omega)
    rwa [afterLooks_add] at hnext
  · rintro ⟨hfirst, hrest⟩ j hj
    cases j with
    | zero => exact hfirst
    | succ j =>
      rw [Nat.add_comm, afterLooks_add]
      exact hrest j (Nat.lt_of_succ_lt_succ hj)

/-- What stays so from look to look, and lets none of them tell that the node is registered, does so for
ever. -/
lemma waits_of_invariant {P : World → Prop}
    (htold : ∀ w, P w → ∃ status, w.told? context = some status ∧ status ≠ .registered)
    (hstep : ∀ w, P w → P (w.afterLooks context 1)) (hw : P w) (k : Nat) : w.Waits context k := by
  induction k generalizing w with
  | zero => exact fun j hj => absurd hj (Nat.not_lt_zero j)
  | succ k ih => exact waits_succ.mpr ⟨htold w hw, ih (hstep w hw)⟩

/-! ### Looks that change nothing any more -/

/-- A status that is known stays as it is, and so does everything else. -/
lemma afterLooks_of_isKnown (h : w.session.status.isKnown) (k : Nat) : w.afterLooks context k = w := by
  refine Function.iterate_fixed ?_ k
  rw [Act.registrationStatus_of_isKnown h]

lemma told?_of_isKnown (h : w.session.status.isKnown) : w.told? context = some w.session.status := by
  rw [told?, Act.registrationStatus_of_isKnown h]
  rfl

lemma lookRequests_of_isKnown (h : w.session.status.isKnown) : w.lookRequests context = [] := by
  rw [lookRequests, Act.registrationStatus_of_isKnown h]
  exact List.drop_length

lemma status_of_told? {status : Status} (h : w.told? context = some status) :
    (w.afterLooks context 1).session.status = status := by
  obtain ⟨⟨status', error?⟩, hlook, rfl⟩ := Option.map_eq_some_iff.mp h
  have hrule : LookUpRule context w (some (status', error?)) (w.afterLooks context 1) :=
    .of_registrationStatus (Prod.ext hlook rfl)
  exact hrule.status_eq

lemma waits_of_unregistered (h : w.session.status = .unregistered) (k : Nat) : w.Waits context k := by
  have hknown : w.session.status.isKnown := by rw [h]; rfl
  intro j hj
  rw [afterLooks_of_isKnown hknown, told?_of_isKnown hknown, h]
  exact ⟨_, rfl, by decide⟩

/-- With a wallet that is not ready every look tells so. -/
lemma waits_of_unready (hstatus : w.session.status.isKnown = false) (hwallet : w.wallet.isReady = false)
    (k : Nat) : w.Waits context k := by
  refine waits_of_invariant (P := fun w => w.session.status.isKnown = false ∧ w.wallet.isReady = false)
    ?_ ?_ ⟨hstatus, hwallet⟩ k
  · rintro w ⟨hstatus, hwallet⟩
    rw [told?, Act.registrationStatus_of_unready hstatus hwallet]
    exact ⟨_, rfl, by decide⟩
  · rintro w ⟨hstatus, hwallet⟩
    rw [afterLooks_one, Act.registrationStatus_of_unready hstatus hwallet]
    exact ⟨rfl, hwallet⟩

/-- A look that calls for a challenge in vain. -/
lemma registrationStatus_of_refused {key : PrivateKey} {e : Error}
    (hstatus : w.session.status.isKnown = false) (hkey : w.wallet.readyKey? = some key)
    (he : (context.exchange .nonce none w.replies).outcome = some (.error e)) :
    Act.registrationStatus context w = (some (.unknown, some (.during "getting nonce for login" e)),
      w.advance [.loginStarted true, .called .nonce none (context.exchange .nonce none w.replies)]
        (context.exchange .nonce none w.replies).rest (w.session.withStatus .unknown)) := by
  simp [Act.registrationStatus, Act.logIn, Act.logInWith, Act.run_bind, Act.run_call, hstatus, hkey, he,
    Session.withDoubt, Session.withStatus]

/-- A look that fails without having used up a reply will fail for ever. -/
lemma waits_of_stuck {key : PrivateKey} {e : Error} (hstatus : w.session.status.isKnown = false)
    (hkey : w.wallet.readyKey? = some key)
    (he : (context.exchange .nonce none w.replies).outcome = some (.error e))
    (hrest : (context.exchange .nonce none w.replies).rest = w.replies) (k : Nat) :
    w.Waits context k := by
  refine waits_of_invariant (P := fun w => w.session.status.isKnown = false ∧
    w.wallet.readyKey? = some key ∧ (context.exchange .nonce none w.replies).outcome = some (.error e) ∧
      (context.exchange .nonce none w.replies).rest = w.replies) ?_ ?_ ⟨hstatus, hkey, he, hrest⟩ k
  · rintro w ⟨hstatus, hkey, he, -⟩
    rw [told?, registrationStatus_of_refused hstatus hkey he]
    exact ⟨.unknown, rfl, by decide⟩
  · rintro w ⟨hstatus, hkey, he, hrest⟩
    rw [afterLooks_one, registrationStatus_of_refused hstatus hkey he]
    rw [hrest]
    exact ⟨rfl, hkey, he, hrest⟩

/-- A look that does not tell that the node is registered uses up a reply, or no look ever tells it. -/
lemma waits_or_rest_lt {status : Status} (htold : w.told? context = some status)
    (hother : status ≠ .registered) :
    (∀ k, w.Waits context k) ∨ (w.afterLooks context 1).replies.length < w.replies.length := by
  obtain ⟨⟨status', error?⟩, hlook, rfl⟩ := Option.map_eq_some_iff.mp htold
  have hrule : LookUpRule context w (some (status', error?)) (w.afterLooks context 1) :=
    .of_registrationStatus (Prod.ext hlook rfl)
  generalize w.afterLooks context 1 = w' at hrule
  generalize hresult : some (status', error?) = result at hrule
  cases hrule with
  | known hknown =>
    cases hresult
    left
    refine waits_of_unregistered ?_
    exact (Status.isKnown_iff.mp hknown).resolve_left hother
  | dropped w' hknown hlogin => cases hresult
  | completed w' hknown hlogin =>
    cases hresult
    cases hlogin with
    | admitted => exact absurd rfl hother
    | unregistered key challenge n l h hl => exact .inr h.rest_lt
  | failed e w' hknown hlogin =>
    cases hlogin with
    | unready hkey => exact .inl (waits_of_unready hknown (Wallet.isReady_eq_false hkey))
    | challengeRefused key n e hkey hn h =>
      subst hn
      obtain hless | ⟨hsame, -⟩ := context.rest_of_exchange .nonce none w.replies
      · exact .inr hless
      · exact .inl (waits_of_stuck hknown hkey h hsame)
    | walletMissing key challenge n l h hl => exact .inr h.rest_lt
    | answerRefused key challenge n l e h hl hu hw => exact .inr h.rest_lt

/-- If one look more than there are replies does not tell that the node is registered, no look ever will. -/
lemma waits_of_waits (h : w.Waits context (w.replies.length + 1)) (k : Nat) : w.Waits context k := by
  -- A look that uses up a reply leaves a world with fewer of them; one that does not is repeated for ever.
  induction hlength : w.replies.length using Nat.strongRecOn generalizing w k with
  | _ length ih =>
    subst hlength
    obtain ⟨⟨status, htold, hother⟩, hrest⟩ := waits_succ.mp h
    obtain hever | hless := waits_or_rest_lt htold hother
    · exact hever k
    · have hnext (k : Nat) : (w.afterLooks context 1).Waits context k := ih _ hless (hrest.mono hless) k rfl
      exact (waits_succ.mpr ⟨⟨status, htold, hother⟩, hnext k⟩).mono k.le_succ

/-! ### Requests -/

/-- A look sends the requests of at most one attempt to log in, and adds them to those that have been sent. -/
lemma requests_afterLooks_one (w : World) (context : Context) :
    (w.afterLooks context 1).requests = w.requests ++ w.lookRequests context := by
  have hlog : ∃ events, (w.afterLooks context 1).log = w.log ++ events := by
    cases hknown : w.session.status.isKnown with
    | true => exact ⟨[], by rw [afterLooks_of_isKnown hknown, List.append_nil]⟩
    | false =>
      rw [afterLooks_one, Act.registrationStatus_of_not_isKnown hknown]
      have hrule : LogInRule context w _ (Act.logIn context w).2 := .of_logIn rfl
      obtain ⟨events, hlog, -⟩ := hrule.isLogInAttempt
      exact ⟨events, hlog⟩
  obtain ⟨events, hlog⟩ := hlog
  rw [lookRequests, ← afterLooks_one, requests, requests, hlog, List.filterMap_append, List.drop_left]

/-- The requests of some looks are those of each look in turn. -/
lemma requests_afterLooks (w : World) (context : Context) (looks : Nat) :
    (w.afterLooks context looks).requests =
      w.requests ++ (List.range looks).flatMap fun k => (w.afterLooks context k).lookRequests context := by
  induction looks with
  | zero => simp
  | succ looks ih =>
    rw [afterLooks_add, requests_afterLooks_one, ih, List.range_succ]
    simp

end World

/-! ### Polls -/

namespace Act

variable {context : Context} {w : World} {k : Nat}

lemma poll_of_told {status : Status} (h : w.told? context = some status) (times : Nat) :
    poll (times + 1) context w =
      if status = .registered then (some false, w.afterLooks context 1)
      else poll times context (w.afterLooks context 1) := by
  obtain ⟨⟨status', error?⟩, hlook, rfl⟩ := Option.map_eq_some_iff.mp h
  have hrun : registrationStatus context w = (some (status', error?), w.afterLooks context 1) :=
    Prod.ext hlook rfl
  rw [poll, run_bind, hrun]
  dsimp only
  split_ifs <;> rfl

lemma poll_of_dropped (h : w.told? context = none) (times : Nat) :
    poll (times + 1) context w = (none, w.afterLooks context 1) := by
  have hrun : registrationStatus context w = (none, w.afterLooks context 1) :=
    Prod.ext (Option.map_eq_none_iff.mp h) rfl
  rw [poll, run_bind, hrun]

/-- Polling goes on as long as no look tells that the node is registered. -/
lemma poll_of_waits (h : w.Waits context k) (times : Nat) :
    poll (k + times) context w = poll times context (w.afterLooks context k) := by
  induction k generalizing w with
  | zero => rw [Nat.zero_add, World.afterLooks_zero]
  | succ k ih =>
    obtain ⟨⟨status, htold, hother⟩, hrest⟩ := World.waits_succ.mp h
    rw [Nat.add_right_comm, poll_of_told htold, if_neg hother, ih hrest, ← World.afterLooks_add,
      Nat.add_comm 1]

/-- Polling ends with the first look that tells that the node is registered. -/
lemma poll_of_registered (h : w.Waits context k)
    (htold : (w.afterLooks context k).told? context = some .registered) {times : Nat} (hk : k < times) :
    poll times context w = (some false, w.afterLooks context (k + 1)) := by
  obtain ⟨rest, rfl⟩ := Nat.exists_eq_add_of_lt hk
  rw [Nat.add_assoc, poll_of_waits h, poll_of_told htold, if_pos rfl, World.afterLooks_add]

/-- Polling is dropped with the first look that is. -/
lemma poll_of_waits_dropped (h : w.Waits context k)
    (htold : (w.afterLooks context k).told? context = none) {times : Nat} (hk : k < times) :
    poll times context w = (none, w.afterLooks context (k + 1)) := by
  obtain ⟨rest, rfl⟩ := Nat.exists_eq_add_of_lt hk
  rw [Nat.add_assoc, poll_of_waits h, poll_of_dropped htold, World.afterLooks_add]

/-- All looks are made, or there is one that ends the polling. -/
lemma waits_or_ends (context : Context) (w : World) (times : Nat) :
    w.Waits context times ∨ ∃ k < times, w.Waits context k ∧
      ((w.afterLooks context k).told? context = some .registered ∨
        (w.afterLooks context k).told? context = none) := by
  induction times with
  | zero => exact .inl fun j hj => absurd hj (Nat.not_lt_zero j)
  | succ times ih =>
    obtain hwaits | ⟨k, hk, hend⟩ := ih
    · by_cases hother : ∃ status, (w.afterLooks context times).told? context = some status ∧
          status ≠ .registered
      · left
        intro j hj
        obtain hlt | rfl := Nat.lt_succ_iff_lt_or_eq.mp hj
        · exact hwaits j hlt
        · exact hother
      · refine .inr ⟨times, Nat.lt_succ_self times, hwaits, ?_⟩
        cases htold : (w.afterLooks context times).told? context with
        | none => exact .inr rfl
        | some status =>
          left
          by_contra hstatus
          exact hother ⟨status, htold, fun h => hstatus (by rw [h])⟩
    · exact .inr ⟨k, Nat.lt_succ_of_lt hk, hend⟩

/-- Polling comes to an end without success exactly if no look tells that the node is registered. -/
lemma poll_eq_some_true (times : Nat) :
    (poll times context w).1 = some true ↔ w.Waits context times := by
  constructor
  · intro h
    obtain hwaits | ⟨k, hk, hwaits, hregistered | hdropped⟩ := waits_or_ends context w times
    · exact hwaits
    · rw [poll_of_registered hwaits hregistered hk] at h
      cases h
    · rw [poll_of_waits_dropped hwaits hdropped hk] at h
      cases h
  · intro h
    have hrun := poll_of_waits h 0
    rw [Nat.add_zero] at hrun
    rw [hrun]
    rfl

/-- A daemon that is shut down polls until then. -/
lemma wait_some (looks : Nat) : wait (some looks) context w =
    ((poll (looks + 1) context w).1.map fun unregistered => if unregistered then .shutDown else .registered,
      (poll (looks + 1) context w).2) := by
  simp only [wait, run_bind, run_world, Option.getD_some, Option.isSome_some, if_true]
  rcases poll (looks + 1) context w with ⟨_ | _ | _, w'⟩ <;> rfl

lemma wait_none : wait none context w =
    ((poll (w.replies.length + 1) context w).1.map fun unregistered =>
        if unregistered then .unending else .registered,
      (poll (w.replies.length + 1) context w).2) := by
  simp only [wait, run_bind, run_world, Option.getD_none, Option.isSome_none, Bool.false_eq_true, if_false]
  rcases poll (w.replies.length + 1) context w with ⟨_ | _ | _, w'⟩ <;> rfl

/-- Polls that are registered in the end tell so, and all others tell something else. -/
lemma map_poll_eq {times : Nat} {waiting : Waiting} (h : waiting ≠ .registered) :
    (poll times context w).1.map (fun unregistered => if unregistered then waiting else .registered) = some waiting ↔
      w.Waits context times := by
  rw [← poll_eq_some_true, Option.map_eq_some_iff]
  constructor
  · rintro ⟨unregistered, hpoll, hwaiting⟩
    cases unregistered with
    | true => exact hpoll
    | false => exact absurd hwaiting.symm h
  · intro hpoll
    exact ⟨true, hpoll, rfl⟩

end Act

/-- Waiting is looking again and again. It ends with the first look that tells that the node is registered; it
is given up only by a daemon that is shut down, and only after a look that tells something else. A daemon polls
as many times as it looks before it notices the shutdown, which is once if it has been shut down already. Each
look is made in the world that the one before has left, and the requests are those of each look in turn. After a
look that tells that the node is not registered, no look sends anything or changes anything. No look is left
unfinished unless the service may leave a call hanging. -/
theorem wait_until_registered (context : Context) (w : World) :
    (∀ k, w.Waits context k → (w.afterLooks context k).told? context = some .registered →
      (∀ times, k < times →
          Act.poll times context w = (some false, w.afterLooks context (k + 1))) ∧
        Act.wait none context w = (some .registered, w.afterLooks context (k + 1)) ∧
        ∀ looks, k ≤ looks → Act.wait (some looks) context w = (some .registered, w.afterLooks context (k + 1))) ∧
    (∀ times, (Act.poll times context w).1 = some true ↔ w.Waits context times) ∧
    (∀ times, w.Waits context times →
      Act.poll times context w = (some true, w.afterLooks context times)) ∧
    ((Act.wait none context w).1 = some .unending ↔ ∀ k, w.Waits context k) ∧
    (Act.wait none context w).1 ≠ some .shutDown ∧
    (∀ looks, (Act.wait (some looks) context w).1 = some .shutDown ↔ w.Waits context (looks + 1)) ∧
    (∀ looks, w.Waits context (looks + 1) →
      Act.wait (some looks) context w = (some .shutDown, w.afterLooks context (looks + 1))) ∧
    Act.wait (some 0) context w =
      ((w.told? context).map fun status =>
          if status = .registered then Waiting.registered else .shutDown,
        w.afterLooks context 1) ∧
    (∀ k, (w.afterLooks context k).requests =
      w.requests ++ (List.range k).flatMap fun j => (w.afterLooks context j).lookRequests context) ∧
    (∀ k, (w.afterLooks context k).told? context = some .unregistered → ∀ m, k < m →
      w.afterLooks context m = w.afterLooks context (k + 1) ∧
        (w.afterLooks context m).told? context = some .unregistered ∧
        (w.afterLooks context m).lookRequests context = []) ∧
    (context.connection.dropsSilent = false →
      ∀ k, ((w.afterLooks context k).told? context).isSome) := by
  have hpolls {times : Nat} (hwaits : w.Waits context times) :
      Act.poll times context w = (some true, w.afterLooks context times) := Act.poll_of_waits hwaits 0
  refine ⟨fun k hwaits htold => ⟨fun times => Act.poll_of_registered hwaits htold, ?_, fun looks hk => ?_⟩,
    Act.poll_eq_some_true, fun times => hpolls, ?_, ?_, fun looks => ?_, fun looks hwaits => ?_, ?_,
    w.requests_afterLooks context, fun k htold m hm => ?_, fun hsteady k => ?_⟩
  · -- Had the look come too late to be counted, none would ever have told that the node is registered.
    have hk : k < w.replies.length + 1 := by
      by_contra hlate
      obtain ⟨status, hstatus, hother⟩ :=
        World.waits_of_waits (hwaits.mono (Nat.le_of_not_lt hlate)) (k + 1) k (Nat.lt_succ_self k)
      rw [htold] at hstatus
      exact hother (Option.some.inj hstatus).symm
    rw [Act.wait_none, Act.poll_of_registered hwaits htold hk]
    rfl
  · rw [Act.wait_some, Act.poll_of_registered hwaits htold (Nat.lt_succ_of_le hk)]
    rfl
  · rw [Act.wait_none, Act.map_poll_eq (by decide)]
    exact ⟨World.waits_of_waits, fun hwaits => hwaits _⟩
  · rw [Act.wait_none]
    intro hwait
    obtain ⟨unregistered, -, hshutDown⟩ := Option.map_eq_some_iff.mp hwait
    cases unregistered <;> cases hshutDown
  · rw [Act.wait_some, Act.map_poll_eq (by decide)]
  · rw [Act.wait_some, hpolls hwaits]
    rfl
  · rw [Act.wait_some]
    cases htold : w.told? context with
    | none =>
      rw [Act.poll_of_dropped htold]
      rfl
    | some status =>
      rw [Act.poll_of_told htold]
      by_cases hregistered : status = .registered
      · simp [hregistered]
      · simp [hregistered, Act.poll]
  · obtain ⟨n, rfl⟩ := Nat.exists_eq_add_of_lt hm
    have hstatus : (w.afterLooks context (k + 1)).session.status = .unregistered := by
      rw [World.afterLooks_add]
      exact World.status_of_told? htold
    have hknown : (w.afterLooks context (k + 1)).session.status.isKnown := by
      rw [hstatus]
      rfl
    rw [Nat.add_right_comm, World.afterLooks_add, World.afterLooks_of_isKnown hknown,
      World.told?_of_isKnown hknown, hstatus]
    exact ⟨rfl, rfl, World.lookRequests_of_isKnown hknown⟩
  · rw [World.told?, Option.isSome_map]
    exact Law.holds_completing.obeys_registrationStatus context _ hsteady

end OperatorDaemon
