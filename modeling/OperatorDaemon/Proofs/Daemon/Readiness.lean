import Mathlib.Data.List.Induction
import OperatorDaemon.Proofs.Api.Gate
import OperatorDaemon.Proofs.Daemon.Identity

/-!
# When the wallet is ready

The wallet is what its changes have made of it: the key and the node address are each what the last change that
concerns them has made of them. So after any history it can be told from the changes whether the wallet is ready, and
all who ask whether a wallet is ready are told the same.
-/

namespace OperatorDaemon

open Daemon (Task Turn)
open Service (Client Connection Reply)

/-! ### Changes -/

namespace Wallet

/-- A change of the wallet. -/
inductive Change where
  /-- A key is loaded, from a file or otherwise. -/
  | loaded (key : PrivateKey) (path? : Option String)
  /-- The node address is set. -/
  | addressed (address : Address)
  /-- The key is dropped. -/
  | unloaded

namespace Change

/-- The key that a change leaves, if it concerns the key. -/
def key? : Change → Option (Option PrivateKey)
  | loaded key _ => some (some key)
  | addressed _ => none
  | unloaded => some none

/-- The node address that a change sets. -/
def address? : Change → Option Address
  | loaded key _ => some key.address
  | addressed address => some address
  | unloaded => none

end Change

/-- The wallet after a change. -/
def change (wallet : Wallet) : Change → Wallet
  | .loaded key none => wallet.load key
  | .loaded key (some path) => { wallet.load key with keyPath := some path }
  | .addressed address => wallet.setAddress address
  | .unloaded => wallet.unload

/-- The wallet after changes, the first of them first. -/
def changeAll (wallet : Wallet) (changes : List Change) : Wallet :=
  changes.foldl change wallet

@[simp] lemma changeAll_concat (wallet : Wallet) (changes : List Change) (c : Change) :
    wallet.changeAll (changes ++ [c]) = (wallet.changeAll changes).change c := by
  simp [changeAll]

section

variable (wallet : Wallet) (changes : List Change)

/-- What every change either sets or leaves as it is, is what the last change has set that sets it. -/
lemma eq_last_of_change {α : Type} {part : Wallet → α} {set? : Change → Option α}
    (h : ∀ wallet c, part (wallet.change c) = (set? c).getD (part wallet)) :
    part (wallet.changeAll changes) = (changes.filterMap set?).getLast?.getD (part wallet) := by
  induction changes using List.reverseRecOn with
  | nil => rfl
  | append_singleton changes c ih =>
    rw [changeAll_concat, h, ih, List.filterMap_append]
    cases hc : set? c with
    | none => simp [hc]
    | some a => simp [hc]

lemma key_changeAll :
    (wallet.changeAll changes).key = (changes.filterMap Change.key?).getLast?.getD wallet.key := by
  refine eq_last_of_change wallet changes fun wallet c => ?_
  cases c with
  | loaded key path? => cases path? <;> rfl
  | addressed | unloaded => rfl

lemma nodeAddress_changeAll :
    (wallet.changeAll changes).nodeAddress =
      (changes.filterMap Change.address?).getLast?.or wallet.nodeAddress := by
  have hset (wallet : Wallet) (c : Change) :
      (wallet.change c).nodeAddress = (c.address?.map some).getD wallet.nodeAddress := by
    cases c with
    | loaded key path? => cases path? <;> rfl
    | addressed | unloaded => rfl
  rw [eq_last_of_change wallet changes hset, ← List.map_filterMap, List.getLast?_map]
  cases (changes.filterMap Change.address?).getLast? <;> rfl

end

/-- No change leaves a key without a node address. -/
lemma isSome_nodeAddress_change (wallet : Wallet) (c : Change) (h : (wallet.change c).key.isSome) :
    (wallet.change c).nodeAddress.isSome := by
  cases c with
  | loaded key path? => cases path? <;> rfl
  | addressed address => rfl
  | unloaded => cases h

lemma isSome_nodeAddress_changeAll {wallet : Wallet} (h : wallet.key.isSome → wallet.nodeAddress.isSome)
    (changes : List Change) (hkey : (wallet.changeAll changes).key.isSome) :
    (wallet.changeAll changes).nodeAddress.isSome := by
  cases changes using List.reverseRecOn with
  | nil => exact h hkey
  | append_singleton changes c =>
    rw [changeAll_concat] at hkey ⊢
    exact isSome_nodeAddress_change _ c hkey

/-- A wallet is ready if and only if it has a key and the node address is that of the key. -/
lemma isReady_iff {wallet : Wallet} :
    wallet.isReady ↔ ∃ key, wallet.key = some key ∧ wallet.nodeAddress = some key.address := by
  simp only [isReady, status, Status.isReady, address, Bool.and_eq_true, beq_iff_eq]
  cases wallet.key with
  | none => simp
  | some key =>
    cases wallet.nodeAddress with
    | none => simp
    | some address =>
      simp only [Option.isSome_some, Option.map_some, Option.getD_some, true_and, Option.some.injEq, exists_eq_left']
      exact eq_comm

/-- After changes of the empty wallet it is ready if and only if the last one that concerns the key has loaded one,
and the last node address that has been set is that of this key. -/
lemma isReady_changeAll_empty (changes : List Change) :
    (empty.changeAll changes).isReady ↔
      ∃ key, (changes.filterMap Change.key?).getLast? = some (some key) ∧
        (changes.filterMap Change.address?).getLast? = some key.address := by
  have hkey (key : PrivateKey) (last? : Option (Option PrivateKey)) :
      last?.getD empty.key = some key ↔ last? = some (some key) := by
    cases last? with
    | none => simp [empty]
    | some key? => simp
  have haddress (last? : Option Address) : last?.or empty.nodeAddress = last? := Option.or_none
  simp only [isReady_iff, key_changeAll, nodeAddress_changeAll, hkey, haddress]

end Wallet

/-! ### Turns -/

/-- The change of the wallet that a task comes to. -/
def Daemon.Task.change? (t : Task) (w : World) : Option Wallet.Change :=
  match t with
  | loadHex text => (KeyFile.keyOfHex text).toOption.map (.loaded · none)
  | loadFile path => (w.disk.key path).toOption.map (.loaded · (some path))
  | setAddress address => some (.addressed address)
  | unload => some .unloaded
  | writeFile .. | removeFile _ | sign _ | requireWallet | requireRegistered | lookUp | logIn
  | register _ | wait _ | operate _ | handle .. => none

lemma Daemon.Task.change?_eq_none {t : Task} (h : t.changesWallet = false) (w : World) : t.change? w = none := by
  cases t with
  | loadHex | loadFile | setAddress | unload => cases h
  | writeFile | removeFile | sign | requireWallet | requireRegistered | lookUp | logIn | register
  | wait | operate | handle => rfl

namespace Daemon.Turn

/-- A turn changes the wallet by what its task comes to, and leaves it as it is if that is nothing. -/
lemma wallet_take (client : Client) (t : Turn) (w : World) :
    (t.take client w).2.wallet = (t.task.change? w).elim w.wallet w.wallet.change := by
  cases ht : t.task.changesWallet with
  | false =>
    obtain ⟨events, -, -, hwallet⟩ := isAnswerOf_take client t w
    rw [Task.change?_eq_none ht]
    exact hwallet.resolve_left fun h => by simp [ht] at h
  | true =>
    obtain ⟨task, connection, replies, now⟩ := t
    cases task with
    | loadHex text =>
      simp only [take, Task.act, Task.change?]
      cases KeyFile.keyOfHex text <;> rfl
    | loadFile path =>
      simp only [take, Task.act, Act.run_bind, Act.run_world, Wallet.loadFile, Task.change?]
      cases w.disk.key path <;> rfl
    | setAddress address => rfl
    | unload => rfl
    | writeFile | removeFile | sign | requireWallet | requireRegistered | lookUp | logIn | register
    | wait | operate | handle => cases ht

/-- The changes of the wallet in turns. -/
def changes (client : Client) : List Turn → World → List Wallet.Change
  | [], _ => []
  | t :: turns, w => (t.task.change? w).toList ++ changes client turns (t.take client w).2

/-- The wallet after turns is what their changes have made of it. -/
lemma wallet_takeAll (client : Client) (turns : List Turn) (w : World) :
    (takeAll client turns w).wallet = w.wallet.changeAll (changes client turns w) := by
  induction turns generalizing w with
  | nil => rfl
  | cons t turns ih =>
    rw [takeAll_cons, ih, wallet_take, changes]
    cases t.task.change? w <;> rfl

/-- The key in a file is loaded, on some connection and at some time. -/
abbrev loading (path : String) (connection : Connection) (replies : List Reply) (now : String) : Turn :=
  { task := .loadFile path, connection, replies, now }

/-- A key in a file is loaded unless it cannot be read. -/
lemma result_take_loading (client : Client) (path : String) (connection : Connection) (replies : List Reply)
    (now : String) (w : World) :
    ((loading path connection replies now).take client w).1 =
      some ((w.disk.key path).map PrivateKey.address) := by
  simp only [take, Task.act, Act.run_bind, Act.run_world, Wallet.loadFile]
  cases w.disk.key path <;> rfl

/-- If no key is loaded, the wallet stays as it is. -/
lemma wallet_take_loading_of_error {client : Client} {path : String} {connection : Connection}
    {replies : List Reply} {now : String} {w : World} {error : Wallet.Error}
    (h : ((loading path connection replies now).take client w).1 = some (.error error)) :
    ((loading path connection replies now).take client w).2.wallet = w.wallet := by
  rw [result_take_loading] at h
  rw [wallet_take, Task.change?]
  cases hread : w.disk.key path with
  | error error => rfl
  | ok key =>
    rw [hread] at h
    cases h

end Daemon.Turn

/-! ### What is told about the wallet -/

/-- What the check of a wallet with this readiness tells. -/
def Wallet.Readiness.verdict : Wallet.Readiness → Except Requirement Unit
  | ready => .ok ()
  | noKeystore => .error .noKeystore
  | noAddress => .error .noAddress
  | addressMismatch => .error .addressMismatch

section

variable {s : Wallet.Status}

lemma checkWallet_eq_verdict : Requirement.checkWallet s = (Wallet.Readiness.ofStatus s).verdict := by
  unfold Wallet.Readiness.ofStatus Requirement.checkWallet
  split_ifs <;> rfl

lemma checkWallet_eq_ok_iff : Requirement.checkWallet s = .ok () ↔ s.isReady := by
  constructor
  · exact Api.checkWallet_eq_ok
  · intro h
    cases hcheck : Requirement.checkWallet s with
    | ok _ => rfl
    | error requirement =>
      rw [(Api.checkWallet_eq_error hcheck).1] at h
      cases h

lemma ofStatus_eq_ready_iff : Wallet.Readiness.ofStatus s = .ready ↔ s.isReady := by
  rw [← checkWallet_eq_ok_iff, checkWallet_eq_verdict]
  cases Wallet.Readiness.ofStatus s <;> simp [Wallet.Readiness.verdict]

lemma status_healthResponse (session : Session) :
    (Api.healthResponse (.ofStatus s) session).status = if s.isReady then 200 else 503 :=
  if_congr ofStatus_eq_ready_iff rfl rfl

/-- Only a key without a node address lacks the address alone. -/
lemma checkWallet_ne_noAddress (h : s.keystore.isLoaded → s.address.hasAddress) :
    Requirement.checkWallet s ≠ .error .noAddress := by
  unfold Requirement.checkWallet
  split_ifs with hkey haddress
  · simp
  · simp_all
  · simp
  · simp

end

/-- The answer about the health of the daemon tells whether the wallet is ready, and leaves the world as it is. -/
lemma Api.handle_health {r : Request} (hroute : Route.ofPath? r.path = some .health)
    (hmethod : r.method ∈ Route.health.allowed) (freshId : String) (context : Context) (w : World) :
    ∃ answer, handle freshId r context w = (some answer, w) ∧
      answer.status = if w.wallet.isReady then 200 else 503 := by
  refine ⟨(healthResponse (.ofStatus w.walletStatus) w.session).sentTo freshId r, ?_, ?_⟩
  · rw [handle_eq hroute hmethod, Act.run_map, Route.respond, Act.run_bind, Act.run_world]
    rfl
  · rw [Response.status_sentTo]
    exact status_healthResponse w.session

/-- After any history of an empty wallet, a key is loaded only with a node address, so the check of the wallet never
finds the address alone to be missing. The wallet is ready if and only if the last change that concerned the key has
loaded one, and the node address that has been set last is that of this key. Loading that fails leaves the wallet as
it is. Whatever a snapshot of a wallet shows, all that tell whether the wallet is ready agree on it: the check, which
tells what the readiness names, the readiness, and the answer about the health of the daemon. -/
theorem readiness_of_history (client : Client) (turns : List Turn) (start : World) :
    let w := Turn.takeAll client turns { start with wallet := .empty }
    let changes := Turn.changes client turns { start with wallet := .empty }
    ((w.wallet.key.isSome → w.wallet.nodeAddress.isSome) ∧
        Requirement.checkWallet w.walletStatus ≠ .error .noAddress) ∧
      (∀ path connection replies now error,
        ((Turn.loading path connection replies now).take client w).1 = some (.error error) →
          ((Turn.loading path connection replies now).take client w).2.wallet = w.wallet) ∧
      (w.wallet.isReady ↔ ∃ key, (changes.filterMap Wallet.Change.key?).getLast? = some (some key) ∧
        (changes.filterMap Wallet.Change.address?).getLast? = some key.address) ∧
      (∀ s : Wallet.Status,
        (Requirement.checkWallet s = .ok () ↔ s.isReady) ∧
          (Wallet.Readiness.ofStatus s = .ready ↔ s.isReady) ∧
          Requirement.checkWallet s = (Wallet.Readiness.ofStatus s).verdict ∧
          ∀ session, (Api.healthResponse (.ofStatus s) session).status = if s.isReady then 200 else 503) ∧
      ∀ r freshId context, Api.Route.ofPath? r.path = some .health → r.method ∈ Api.Route.health.allowed →
        ∃ answer, Api.handle freshId r context w = (some answer, w) ∧
          answer.status = if w.wallet.isReady then 200 else 503 := by
  intro w changes
  have hwallet : w.wallet = Wallet.empty.changeAll changes := Turn.wallet_takeAll ..
  have haddress : w.wallet.key.isSome → w.wallet.nodeAddress.isSome := by
    rw [hwallet]
    exact Wallet.isSome_nodeAddress_changeAll (fun h => by cases h) changes
  refine ⟨⟨haddress, checkWallet_ne_noAddress haddress⟩, ?_, ?_, ?_, ?_⟩
  · intro path connection replies now error h
    exact Turn.wallet_take_loading_of_error h
  · rw [hwallet]
    exact Wallet.isReady_changeAll_empty changes
  · intro s
    exact ⟨checkWallet_eq_ok_iff, ofStatus_eq_ready_iff, checkWallet_eq_verdict, status_healthResponse⟩
  · intro r freshId context hroute hmethod
    exact Api.handle_health hroute hmethod freshId context w

/-- A key is loaded from a file. Then another file is to be loaded, which is absent. -/
theorem readiness_of_history_absent :
    let turns : List Turn :=
      [{ task := .writeFile "key" (Utf8.bytes (String.ofList (List.replicate 64 '1'))), connection := .sample, now := "noon" },
        Turn.loading "key" .sample [] "noon"]
    let w := Turn.takeAll .sample turns {}
    let next := (Turn.loading "other" .sample [] "later").take .sample w
    (w.wallet.key.isSome ∧ w.wallet.nodeAddress.isSome ∧ w.wallet.keyPath = some "key") ∧
      (∃ error, next.1 = some (.error error)) ∧ next.2.wallet = w.wallet := by
  intro turns w next
  obtain ⟨-, hfails, -⟩ := readiness_of_history .sample turns {}
  have habsent : next.1 =
      some (.error (.keyFile ("failed to read " ++ "other" ++ ": " ++ KeyFile.FileFault.absent.message))) := by
    rw [Turn.result_take_loading, Disk.key, show w.disk.read "other" = .error .absent by rfl]
    rfl
  exact ⟨by decide +kernel, ⟨_, habsent⟩, hfails _ _ _ _ _ habsent⟩

end OperatorDaemon
