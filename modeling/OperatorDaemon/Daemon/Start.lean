import OperatorDaemon.Configuration.Basic
import OperatorDaemon.Log.Entry
import OperatorDaemon.Session.Act

/-!
# Starting the daemon

The daemon reads its configuration, prepares the wallet and the client of the service, and listens. A
rejected configuration and a key file that cannot be used stop it before it listens. With a key file the
node address that is configured does not matter.
-/

namespace OperatorDaemon.Daemon

open Service (Client Connection Reply)

/-- What the daemon finds where it is started. -/
structure Machine where
  /-- The variables. -/
  vars : Configuration.Variables
  /-- The files. -/
  disk : Disk := {}
  /-- Why there can be no log, if that is so. -/
  loggingFault? : Option String := none
  /-- Why nobody can listen at an address and a port, if that is so. -/
  listenFault? : IpAddress → Nat → Option String := fun _ _ => none
  /-- Why nobody can wait for an interrupt, if that is so. -/
  signalFault? : Option String := none
  /-- Which URLs lead to the service. -/
  reaches : Url → Bool := fun _ => false
  /-- What the service does with requests. -/
  replies : List Reply := []
  /-- Where reading fails in the body of a reply to a call. -/
  place : Service.Call → List UInt8 → String := fun _ _ => ""
  /-- The time. -/
  time : String := ""

/-- The way to the service. Nothing that the daemon itself sets out to do is dropped. -/
def Machine.connection (m : Machine) : Connection where
  reaches := m.reaches
  dropsSilent := false
  place := m.place

/-- What operations find given. -/
def Machine.context (m : Machine) (client : Client) : Context :=
  ⟨client, m.connection, m.time⟩

/-- Why the daemon stops by itself. -/
inductive Fault where
  /-- The key file cannot be used. -/
  | wallet (e : Wallet.Error)
  /-- There is no client for the service. -/
  | service (e : Service.Error)
  /-- Listening is impossible. -/
  | listening (reason : String)
  deriving DecidableEq, Repr

/-- The wording of a fault. -/
def Fault.message : Fault → String
  | .wallet e => e.message
  | .service e => e.message
  | .listening reason => reason

/-! ### Entries of the log -/

def loadedEntry (path : String) (address : Address) : Log.Entry where
  level := .info
  part := .wallet
  message := "Loaded node wallet key"
  details := [("address", .text address.checksummed), ("path", .text path)]

def readOnlyEntry (address : Address) : Log.Entry where
  level := .info
  message := "No key file configured, running with read-only node address"
  details := [("address", .text address.checksummed)]

def noWalletEntry : Log.Entry where
  level := .warn
  message := "No node wallet configured; NodeSet operations are unavailable"

def listeningEntry (c : Configuration) : Log.Entry where
  level := .info
  message := "Hyperdrive daemon listening (docs at /docs)"
  details := [("network", .text c.network.name), ("nodeset", .text c.serviceUrl.text),
    ("addr", .text c.listenText)]

def signalEntry (reason : String) : Log.Entry where
  level := .error
  message := "Failed to listen for shutdown signal"
  details := [("error", .text reason)]

def shutdownEntry : Log.Entry where
  level := .info
  message := "Shutting down"

def faultEntry (f : Fault) : Log.Entry where
  level := .error
  message := "Daemon stopped with an error"
  details := [("error", .text f.message)]

/-! ### Stages -/

/-- The wallet that the configuration asks for, and what is said about it. -/
def openWallet (c : Configuration) (disk : Disk) : Except Fault (Wallet × Log.Entry) :=
  match c.keyPath, c.nodeAddress with
  | some path, _ =>
    match Wallet.empty.loadFile disk path with
    | .ok (wallet, address) => .ok (wallet, loadedEntry path address)
    | .error e => .error (.wallet e)
  | none, some address => .ok (Wallet.empty.setAddress address, readOnlyEntry address)
  | none, none => .ok (Wallet.empty, noWalletEntry)

/-- The client of the service that the configuration names. -/
def openClient (c : Configuration) : Except Fault Client :=
  (Client.ofText c.serviceUrl.text).mapError .service

/-- What has come of starting the daemon. -/
structure Start where
  /-- What it has said on the way. -/
  log : List Log.Entry
  /-- The client and the world that it works with, unless it has stopped. -/
  outcome : Except Fault (Client × World)

/-- Start the daemon with a configuration, up to where it begins to watch for the registration. -/
def start (c : Configuration) (m : Machine) : Start :=
  match openWallet c m.disk with
  | .error fault => ⟨[], .error fault⟩
  | .ok (wallet, entry) =>
    match openClient c with
    | .error fault => ⟨[entry], .error fault⟩
    | .ok client => ⟨[entry], .ok (client, { wallet, disk := m.disk, replies := m.replies })⟩

/-- Listen where the configuration says, until there is an interrupt. What is logged meanwhile, as long as
nobody sends a request: the requests themselves are the matter of the local interface. -/
def listen (c : Configuration) (m : Machine) : Except Fault (List Log.Entry) :=
  match m.listenFault? c.host c.port with
  | some reason => .error (.listening reason)
  | none => .ok (listeningEntry c :: ((m.signalFault?.map signalEntry).toList ++ [shutdownEntry]))

end OperatorDaemon.Daemon
