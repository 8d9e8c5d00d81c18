import Mathlib.Logic.Function.Basic
import Mathlib.Tactic.Common
import OperatorDaemon.Daemon.Start
import OperatorDaemon.Proofs.Configuration
import OperatorDaemon.Proofs.Url.Reader

/-!
# How the daemon starts

The stages of the start, in order. Only the key file can go wrong in them: the URL that a configuration holds always
makes a client. If a key file is configured, it alone decides which address the node has.
-/

namespace OperatorDaemon.Daemon

open OperatorDaemon.Configuration (Passes value?)

variable {m : Machine} {c : Configuration}

/-! ### The wallet -/

/-- If the configuration names a key file, it holds a key. -/
def KeyUsable (c : Configuration) (disk : Disk) : Prop :=
  ∀ path, c.keyPath = some path → ∃ key, disk.key path = .ok key

lemma exists_of_not_keyUsable {disk : Disk} (h : ¬ KeyUsable c disk) :
    ∃ path e, c.keyPath = some path ∧ disk.key path = .error e := by
  simp only [KeyUsable, not_forall] at h
  obtain ⟨path, hpath, hkey⟩ := h
  cases hresult : disk.key path with
  | error e => exact ⟨path, e, hpath, hresult⟩
  | ok key => exact absurd ⟨key, hresult⟩ hkey

lemma openWallet_of_error {disk : Disk} {path : String} {e : Wallet.Error} (hpath : c.keyPath = some path)
    (hkey : disk.key path = .error e) : openWallet c disk = .error (.wallet e) := by
  simp only [openWallet, hpath, Wallet.loadFile, hkey]

/-- The wallet with a key that has been loaded from a file. -/
def keyedWallet (path : String) (key : PrivateKey) : Wallet :=
  { Wallet.empty.load key with keyPath := some path }

lemma openWallet_of_key {disk : Disk} {path : String} {key : PrivateKey} (hpath : c.keyPath = some path)
    (hkey : disk.key path = .ok key) :
    openWallet c disk = .ok (keyedWallet path key, loadedEntry path key.address) := by
  simp only [openWallet, hpath, Wallet.loadFile, hkey, keyedWallet]

/-- The wallet without a key file: it has no key, and the node address that is configured. -/
def keylessWallet (c : Configuration) : Wallet :=
  { Wallet.empty with nodeAddress := c.nodeAddress }

/-- What is said about the wallet without a key file. -/
def keylessEntry (c : Configuration) : Log.Entry :=
  match c.nodeAddress with
  | some address => readOnlyEntry address
  | none => noWalletEntry

lemma openWallet_of_none {disk : Disk} (hpath : c.keyPath = none) :
    openWallet c disk = .ok (keylessWallet c, keylessEntry c) := by
  rw [openWallet, hpath, keylessWallet, keylessEntry]
  cases c.nodeAddress with
  | some address => rfl
  | none => rfl

/-! ### The client -/

/-- The URL of a configuration is one of the web. -/
lemma exists_parse_of_read (h : Configuration.read m.vars = .ok c) :
    ∃ s, Url.parse s = .ok c.serviceUrl ∧ (c.serviceUrl.scheme = "http" ∨ c.serviceUrl.scheme = "https") := by
  have hurl := Configuration.serviceUrlOf_eq_ok_iff.mp (Configuration.read_eq_ok_iff.mp h).serviceUrl
  unfold Configuration.readUrl at hurl
  split at hurl
  · cases hurl
  · rename_i url hparse
    split_ifs at hurl with hscheme
    cases hurl
    exact ⟨_, hparse, hscheme⟩

/-- There is a client for the URL of every configuration that is read. -/
theorem exists_openClient (h : Configuration.read m.vars = .ok c) : ∃ client, openClient c = .ok client := by
  obtain ⟨s, hparse, hscheme⟩ := exists_parse_of_read h
  obtain ⟨base, hbase, hcanBeBase⟩ := Url.exists_parse_text hparse hscheme
  refine ⟨⟨base, hcanBeBase⟩, ?_⟩
  simp only [openClient, Service.Client.ofText, hbase, hcanBeBase, dite_true, Except.mapError]

lemma start_of_openWallet {wallet : Wallet} {entry : Log.Entry} (hread : Configuration.read m.vars = .ok c)
    (hwallet : openWallet c m.disk = .ok (wallet, entry)) :
    ∃ client, openClient c = .ok client ∧
      start c m = ⟨[entry], .ok (client, { wallet, disk := m.disk, replies := m.replies })⟩ := by
  obtain ⟨client, hclient⟩ := exists_openClient hread
  exact ⟨client, hclient, by simp only [start, hwallet, hclient]⟩

/-! ### The node address -/

/-- The machine with another node address, or none. -/
def Machine.withNodeAddress (m : Machine) (value : Option String) : Machine :=
  { m with vars := Function.update m.vars Setting.nodeAddress.variableName value }

lemma vars_withNodeAddress {value : Option String} {name : String} (hname : name ≠ Setting.nodeAddress.variableName) :
    (m.withNodeAddress value).vars name = m.vars name :=
  Function.update_of_ne hname _ _

/-- A key file leaves nothing to the node address. -/
lemma start_withNodeAddress (m : Machine) (value : Option String) (address : Option Address) {path : String}
    (hpath : c.keyPath = some path) :
    start { c with nodeAddress := address } (m.withNodeAddress value) = start c m := by
  have hwallet : openWallet { c with nodeAddress := address } m.disk = openWallet c m.disk := by
    simp only [openWallet, hpath]
  rw [start, show (m.withNodeAddress value).disk = m.disk from rfl, hwallet]
  rfl

/-- With a key file, an acceptable node address in place of another makes no difference for what is read and started. -/
lemma read_withNodeAddress {value : Option String} {path : String} (hpath : value? m.vars .keyPath = some path)
    (h : Passes m.vars .nodeAddress) (h' : Passes (m.withNodeAddress value).vars .nodeAddress) :
    (∀ e, Configuration.read m.vars = .error e → Configuration.read (m.withNodeAddress value).vars = .error e) ∧
    (∀ c, Configuration.read m.vars = .ok c →
      ∃ address, Configuration.read (m.withNodeAddress value).vars = .ok { c with nodeAddress := address } ∧
        start { c with nodeAddress := address } (m.withNodeAddress value) = start c m) := by
  have hvars (s : Setting) (hs : s ≠ .nodeAddress) :
      m.vars s.variableName = (m.withNodeAddress value).vars s.variableName :=
    (vars_withNodeAddress (Setting.variableName_injective.ne hs)).symm
  constructor
  · intro e hread
    have hfailure := Configuration.failure?_read_of_nodeAddress hvars h h'
    rwa [hread, failure?, failure?_eq_some_iff] at hfailure
  · intro c hread
    obtain ⟨address, hread'⟩ := Configuration.exists_read_of_nodeAddress hvars h h' hread
    have hkeyPath : c.keyPath = some path := (Configuration.read_eq_ok_iff.mp hread).keyPath.symm.trans hpath
    exact ⟨address, hread', start_withNodeAddress m value address hkeyPath⟩

end OperatorDaemon.Daemon
