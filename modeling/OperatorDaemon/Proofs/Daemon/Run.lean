import Mathlib.Tactic.Common
import OperatorDaemon.Daemon.Run
import OperatorDaemon.Proofs.Daemon.Start
import OperatorDaemon.Proofs.Daemon.Watch

/-!
# How a run of the daemon ends

A run goes through its stages in order, and what goes wrong in one of them keeps it from all later ones. On a machine
on which everything else works, only the configuration and the key file can go wrong, whatever course a run takes: the
daemon listens, the watch for the registration is in vain, and the interrupt ends both.
-/

namespace OperatorDaemon.Daemon

open OperatorDaemon.Configuration (Passes Fails value?)
open Service (Client Error)

variable {m : Machine} {course : Course} {c : Configuration}

/-! ### Two at a time -/

section Merge

variable {α : Type} {a : α} {order : List Bool} {watched own : List α}

/-- Nothing is lost and nothing is added. -/
lemma perm_merge (order : List Bool) (watched own : List α) : (merge order watched own).Perm (watched ++ own) := by
  induction order generalizing watched own with
  | nil => exact List.perm_append_comm
  | cons b order ih =>
    cases b with
    | true =>
      cases watched with
      | nil => exact ih [] own
      | cons a watched => exact (ih watched own).cons a
    | false =>
      cases own with
      | nil => exact ih watched []
      | cons a own => exact ((ih watched own).cons a).trans List.perm_middle.symm

lemma mem_merge : a ∈ merge order watched own ↔ a ∈ watched ∨ a ∈ own := by
  rw [(perm_merge order watched own).mem_iff, List.mem_append]

end Merge

/-! ### What the log shows -/

/-- Nothing else is asked of the log, and everything works but that the service cannot be reached. -/
structure Machine.IsSecluded (m : Machine) : Prop where
  filter : m.vars filterVariable = none
  logging : m.loggingFault? = none
  listening : ∀ host port, m.listenFault? host port = none
  signal : m.signalFault? = none
  unreached : ∀ url, m.reaches url = false

lemma limitFor_standard (p : Log.Part) : (Log.Filter.standard.limitFor p.target).2 = Log.Level.info.rank := by
  cases p <;> decide

/-- Entries that are grave enough are shown. -/
lemma Machine.IsSecluded.shown_eq (hm : m.IsSecluded) (entries : List Log.Entry) :
    m.shown entries = entries.filter (·.level.rank ≤ Log.Level.info.rank) := by
  rw [shown, hm.filter, Log.Filter.ofVariable, Option.bind_none, Option.getD_none]
  congr 1
  funext e
  rw [Log.Filter.admits, limitFor_standard]

/-- What is shown of a look with a key if the service cannot be reached. -/
def keyedLook (c : Configuration) (client : Client) (key : PrivateKey) : List Log.Entry :=
  [loggingInEntry key.address,
    lookEntry c.checkInterval (some (.during "getting nonce for login" (vainError client .nonce none))) .unknown]

/-- What is shown of a look without a key. -/
def keylessLook (c : Configuration) : List Log.Entry :=
  [lookEntry c.checkInterval none .noWallet]

namespace Machine.IsSecluded

lemma shown_keyed (hm : m.IsSecluded) {client : Client} {path : String} {key : PrivateKey} :
    m.shown (vainEntries client c.checkInterval (keyedWallet path key)) = keyedLook c client key := by
  have hready : (keyedWallet path key).readyKey? = some key := Wallet.readyKey?_load Wallet.empty key
  rw [hm.shown_eq, vainEntries, hready]
  cases client.request .nonce none with
  | error failure => rfl
  | ok q => rfl

lemma shown_keyless (hm : m.IsSecluded) {client : Client} :
    m.shown (vainEntries client c.checkInterval (keylessWallet c)) = keylessLook c := by
  rw [hm.shown_eq]
  rfl

lemma shown_keylessEntry (hm : m.IsSecluded) : m.shown [keylessEntry c] = [keylessEntry c] := by
  rw [hm.shown_eq, keylessEntry]
  cases c.nodeAddress with
  | some address => rfl
  | none => rfl

/-- What is shown again and again is what is shown of each time. -/
lemma shown_replicate (n : Nat) (entries : List Log.Entry) :
    m.shown (List.replicate n entries).flatten = (List.replicate n (m.shown entries)).flatten := by
  rw [shown, List.filter_flatten, List.map_replicate]
  rfl

end Machine.IsSecluded

/-! ### Reports -/

lemma run_of_rejected {e : Configuration.Error} (hread : Configuration.read m.vars = .error e) (course : Course) :
    run m course = { succeeds := false, complaint := some (complaint e) } := by
  rw [run, hread]

lemma run_of_unusable (hm : m.IsSecluded) {path : String} {e : Wallet.Error}
    (hread : Configuration.read m.vars = .ok c) (hpath : c.keyPath = some path)
    (hkey : m.disk.key path = .error e) (course : Course) :
    run m course = { succeeds := false, log := [faultEntry (.wallet e)], logFormat := c.logFormat } := by
  simp only [run, hread, hm.logging, start, openWallet_of_error hpath hkey, List.nil_append, hm.shown_eq]
  rfl

/-- A daemon that has been started listens, watches in vain, and ends well. -/
lemma run_of_started (hm : m.IsSecluded) {client : Client} {wallet : Wallet} {entry : Log.Entry}
    (hread : Configuration.read m.vars = .ok c)
    (hstart : start c m = ⟨[entry], .ok (client, { wallet, disk := m.disk, replies := m.replies })⟩) (course : Course) :
    run m course =
      { succeeds := true, logFormat := c.logFormat
        log := m.shown [entry] ++ merge course.order
          (List.replicate (course.moreLooks + 1) (m.shown (vainEntries client c.checkInterval wallet))).flatten
          [listeningEntry c, shutdownEntry] } := by
  have hwatch : (watch c.checkInterval (course.moreLooks + 1) (m.context client)
        { wallet, disk := m.disk, replies := m.replies }).1 =
      some (true, (List.replicate (course.moreLooks + 1) (vainEntries client c.checkInterval wallet)).flatten) :=
    watch_of_unreached hm.unreached rfl c.checkInterval (course.moreLooks + 1)
  have hown : m.shown [listeningEntry c, shutdownEntry] = [listeningEntry c, shutdownEntry] := by
    rw [hm.shown_eq]
    rfl
  simp only [run, hread, hm.logging, hstart, hwatch, listen, hm.listening, hm.signal, Option.map_none, Option.toList_none,
    List.nil_append, hown, Option.map_some, Option.getD_some, Option.isSome_some, Machine.IsSecluded.shown_replicate]

lemma run_of_key (hm : m.IsSecluded) {path : String} {key : PrivateKey} (hread : Configuration.read m.vars = .ok c)
    (hpath : c.keyPath = some path) (hkey : m.disk.key path = .ok key) :
    ∃ client, openClient c = .ok client ∧
      start c m = ⟨[loadedEntry path key.address],
        .ok (client, { wallet := keyedWallet path key, disk := m.disk, replies := m.replies })⟩ ∧
      ∀ course, run m course =
        { succeeds := true, logFormat := c.logFormat
          log := loadedEntry path key.address :: merge course.order
            (List.replicate (course.moreLooks + 1) (keyedLook c client key)).flatten
            [listeningEntry c, shutdownEntry] } := by
  obtain ⟨client, hclient, hstart⟩ := start_of_openWallet hread (openWallet_of_key hpath hkey)
  refine ⟨client, hclient, hstart, fun course => ?_⟩
  have hentry : m.shown [loadedEntry path key.address] = [loadedEntry path key.address] := by
    rw [hm.shown_eq]
    rfl
  rw [run_of_started hm hread hstart, hm.shown_keyed, hentry, List.singleton_append]

lemma run_of_none (hm : m.IsSecluded) (hread : Configuration.read m.vars = .ok c) (hpath : c.keyPath = none)
    (course : Course) :
    run m course =
      { succeeds := true, logFormat := c.logFormat
        log := keylessEntry c :: merge course.order
          (List.replicate (course.moreLooks + 1) (keylessLook c)).flatten [listeningEntry c, shutdownEntry] } := by
  obtain ⟨client, -, hstart⟩ := start_of_openWallet hread (openWallet_of_none hpath)
  rw [run_of_started hm hread hstart, hm.shown_keyless, hm.shown_keylessEntry, List.singleton_append]

/-! ### The outcome -/

/-- The log shows that the daemon listens. -/
def ReportsListening (m : Machine) (course : Course) : Prop :=
  ∃ e ∈ (run m course).log, e.message = "Hyperdrive daemon listening (docs at /docs)"

/-- A run ends well if and only if its log shows that the daemon listens. -/
lemma succeeds_iff_reportsListening (hm : m.IsSecluded) (course : Course) :
    (run m course).succeeds ↔ ReportsListening m course := by
  have hlistens (c : Configuration) (entry : Log.Entry) (watched : List Log.Entry) :
      ∃ e ∈ entry :: merge course.order watched [listeningEntry c, shutdownEntry],
        e.message = "Hyperdrive daemon listening (docs at /docs)" :=
    ⟨listeningEntry c, List.mem_cons_of_mem _ (mem_merge.mpr (.inr List.mem_cons_self)), rfl⟩
  rw [ReportsListening]
  cases hread : Configuration.read m.vars with
  | error e => simp [run_of_rejected hread]
  | ok c =>
    by_cases hkey : KeyUsable c m.disk
    · cases hpath : c.keyPath with
      | none =>
        rw [run_of_none hm hread hpath]
        exact ⟨fun _ => hlistens c _ _, fun _ => rfl⟩
      | some path =>
        obtain ⟨key, hkey⟩ := hkey path hpath
        obtain ⟨client, -, -, hrun⟩ := run_of_key hm hread hpath hkey
        rw [hrun]
        exact ⟨fun _ => hlistens c _ _, fun _ => rfl⟩
    · obtain ⟨path, e, hpath, hkey⟩ := exists_of_not_keyUsable hkey
      simp [run_of_unusable hm hread hpath hkey, faultEntry]

/-- With a key file, acceptable node addresses make no difference to a run. -/
lemma run_withNodeAddress {value : Option String} {path : String} (hpath : value? m.vars .keyPath = some path)
    (h : Passes m.vars .nodeAddress) (h' : Passes (m.withNodeAddress value).vars .nodeAddress) (course : Course) :
    run (m.withNodeAddress value) course = run m course := by
  obtain ⟨hrejected, hread⟩ := read_withNodeAddress hpath h h'
  have hshown : (m.withNodeAddress value).shown = m.shown := by
    funext entries
    rw [Machine.shown, vars_withNodeAddress (by decide), Machine.shown]
  cases hc : Configuration.read m.vars with
  | error e => rw [run_of_rejected hc, run_of_rejected (hrejected e hc)]
  | ok c =>
    obtain ⟨address, hc', hstart⟩ := hread c hc
    simp only [run, hc, hc', hstart, hshown]
    rfl

/-- If nothing else is asked of the log and everything works but that the service cannot be reached, a run is decided
by the configuration and the key file, whatever course it takes. A rejected configuration is complained about and
nothing is logged. A key file that does not load is the only thing that is logged, as an error. Otherwise the log tells
about the wallet first; then the daemon listens and is interrupted, while the watcher looks at the registration status
in vain, and the run ends well. With a key file the node has the address of the key, and acceptable node addresses
change neither what is seen of the run nor what is started. A node address that is not acceptable is rejected all the
same. -/
theorem run_by_stages (m : Machine) (hm : m.IsSecluded) :
    (∀ e, Configuration.read m.vars = .error e → ∀ course,
      run m course = { succeeds := false, complaint := some ("Invalid configuration: " ++ e.message), log := [] }) ∧
    (∀ c path e, Configuration.read m.vars = .ok c → c.keyPath = some path →
      m.disk.key path = .error e → ∀ course,
      run m course =
        { succeeds := false, complaint := none, logFormat := c.logFormat
          log := [{ level := .error, message := "Daemon stopped with an error", details := [("error", .text e.message)] }] }) ∧
    (∀ c path key, Configuration.read m.vars = .ok c → c.keyPath = some path →
      m.disk.key path = .ok key →
      ∃ client w, (start c m).outcome = .ok (client, w) ∧ w.wallet.key = some key ∧
        w.wallet.nodeAddress = some key.address ∧
        ∀ course, run m course =
          { succeeds := true, complaint := none, logFormat := c.logFormat
            log := loadedEntry path key.address :: merge course.order
              (List.replicate (course.moreLooks + 1) (keyedLook c client key)).flatten
              [listeningEntry c, shutdownEntry] }) ∧
    (∀ c, Configuration.read m.vars = .ok c → c.keyPath = none → ∀ course,
      run m course =
        { succeeds := true, complaint := none, logFormat := c.logFormat
          log := keylessEntry c :: merge course.order
            (List.replicate (course.moreLooks + 1) (keylessLook c)).flatten [listeningEntry c, shutdownEntry] }) ∧
    (∀ course, (run m course).succeeds ↔ ReportsListening m course) ∧
    (∀ path value, value? m.vars .keyPath = some path → Passes m.vars .nodeAddress →
      Passes (m.withNodeAddress value).vars .nodeAddress →
      (∀ course, run (m.withNodeAddress value) course = run m course) ∧
      ∀ c, Configuration.read m.vars = .ok c →
        ∃ address, Configuration.read (m.withNodeAddress value).vars = .ok { c with nodeAddress := address } ∧
          start { c with nodeAddress := address } (m.withNodeAddress value) = start c m) ∧
    (∀ reason, Fails m.vars .nodeAddress reason → ∃ e, Configuration.read m.vars = .error e ∧
      ((∀ s ∈ [Setting.network, .serviceUrl, .timeout, .host, .port], Passes m.vars s) →
        e = ⟨.nodeAddress, reason⟩)) := by
  refine ⟨fun e => run_of_rejected, fun c path e hread hpath hkey => run_of_unusable hm hread hpath hkey,
    fun c path key hread hpath hkey => ?_, fun c hread hpath => run_of_none hm hread hpath,
    succeeds_iff_reportsListening hm, fun path value hpath h h' => ?_,
    fun reason h => Configuration.exists_read_eq_error rfl h⟩
  · obtain ⟨client, -, hstart, hrun⟩ := run_of_key hm hread hpath hkey
    exact ⟨client, _, by rw [hstart], rfl, rfl, hrun⟩
  · exact ⟨run_withNodeAddress hpath h h', (read_withNodeAddress hpath h h').2⟩

/-- A machine with a key file and with another node address than that of the key. -/
def keyed : Machine where
  vars name := [("WALLET_KEY_PATH", "node.key"),
    ("NODE_ADDRESS", "0xf39Fd6e51aad88F6F4ce6aB8827279cffFb92266")].lookup name
  disk := { files := [("node.key", Utf8.bytes ("0x" ++ String.ofList (List.replicate 64 '1')))] }

/-- A course on which the watcher looks before the daemon listens, and once more before the interrupt. -/
def Course.twice : Course where
  moreLooks := 1
  order := [true, true, false, true, true, false]

theorem run_by_stages_keyed :
    keyed.IsSecluded ∧ value? keyed.vars .keyPath = some "node.key" ∧ Passes keyed.vars .nodeAddress ∧
    Passes (keyed.withNodeAddress none).vars .nodeAddress ∧ (run keyed .twice).succeeds ∧
    run (keyed.withNodeAddress none) .twice = run keyed .twice ∧
    (run keyed .twice).log.map (·.message) =
      ["Loaded node wallet key", "Not authenticated with the NodeSet server, logging in",
        "Can't check NodeSet registration status", "Hyperdrive daemon listening (docs at /docs)",
        "Not authenticated with the NodeSet server, logging in", "Can't check NodeSet registration status",
        "Shutting down"] := by
  have hm : keyed.IsSecluded := ⟨by decide, rfl, fun _ _ => rfl, rfl, fun _ => rfl⟩
  have hpath : value? keyed.vars .keyPath = some "node.key" := by decide +kernel
  have hpasses : Passes keyed.vars .nodeAddress := Configuration.fault?_eq_none_iff.mp (by decide +kernel)
  have hpasses' : Passes (keyed.withNodeAddress none).vars .nodeAddress :=
    Configuration.fault?_eq_none_iff.mp (by decide +kernel)
  have hlog : (run keyed .twice).log.map (·.message) =
      ["Loaded node wallet key", "Not authenticated with the NodeSet server, logging in",
        "Can't check NodeSet registration status", "Hyperdrive daemon listening (docs at /docs)",
        "Not authenticated with the NodeSet server, logging in", "Can't check NodeSet registration status",
        "Shutting down"] := by decide +kernel
  obtain ⟨-, -, -, -, hlistens, haddress, -⟩ := run_by_stages keyed hm
  have hreports : ReportsListening keyed .twice := by
    refine List.mem_map.mp ?_
    rw [hlog]
    decide
  exact ⟨hm, hpath, hpasses, hpasses', (hlistens .twice).mpr hreports,
    (haddress "node.key" none hpath hpasses hpasses').1 .twice, hlog⟩

/-- A machine with a blank for the path of a key file. -/
def blankPath : Machine where
  vars name := [("LOG_FORMAT", "json"), ("PORT", "0"), ("WALLET_KEY_PATH", " "),
    ("NODE_ADDRESS", "0xf39Fd6e51aad88F6F4ce6aB8827279cffFb92266")].lookup name

/-- A blank path counts as none, so that the node address makes a difference. -/
theorem run_blankPath : blankPath.IsSecluded ∧ blankPath.vars Setting.keyPath.variableName = some " " ∧
    Passes blankPath.vars .nodeAddress ∧ Passes (blankPath.withNodeAddress none).vars .nodeAddress ∧
    (run (blankPath.withNodeAddress none) {}).log ≠ (run blankPath {}).log := by
  have hmessages : ((run (blankPath.withNodeAddress none) {}).log).map (·.message) ≠
      ((run blankPath {}).log).map (·.message) := by decide +kernel
  exact ⟨⟨by decide, rfl, fun _ _ => rfl, rfl, fun _ => rfl⟩, by decide,
    Configuration.fault?_eq_none_iff.mp (by decide +kernel), Configuration.fault?_eq_none_iff.mp (by decide +kernel),
    fun h => hmessages (congrArg _ h)⟩

end OperatorDaemon.Daemon
