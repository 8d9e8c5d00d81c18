import OperatorDaemon.Daemon.Start
import OperatorDaemon.Daemon.Watch
import OperatorDaemon.Log.Filter

/-!
# A run of the daemon

Once it has been started, the daemon listens until it is interrupted, and watches for the registration at
the same time. The entries of both go to one log, in an order that nobody determines. The interrupt ends the
watch as well, after a look that may still be going on, and the daemon waits for that.
-/

namespace OperatorDaemon.Daemon

/-! ### Two at a time -/

/-- What cannot be told beforehand about a run. -/
structure Course where
  /-- How many looks the watcher takes after its first one, unless the node is registered, before it
  notices that the daemon shuts down. -/
  moreLooks : Nat := 0
  /-- For each entry in turn, whether it is one of the watcher. -/
  order : List Bool := []
  /-- How many entries the watcher gets into the log of a daemon that stops by itself. -/
  cut : Nat := 0

/-- The entries of the watcher and of the daemon in one log. -/
def merge {α : Type} : (order : List Bool) → (watched own : List α) → List α
  | true :: order, a :: watched, own => a :: merge order watched own
  | false :: order, watched, a :: own => a :: merge order watched own
  | _ :: order, watched, own => merge order watched own
  | [], watched, own => own ++ watched

/-! ### The whole run -/

/-- What is seen of a run of the daemon from outside. -/
structure Report where
  /-- Whether it ends well. -/
  succeeds : Bool
  /-- What it says on the error output. -/
  complaint : Option String := none
  /-- What its log shows. -/
  log : List Log.Entry := []
  /-- The form of the log. -/
  logFormat : LogFormat := .pretty
  deriving DecidableEq, Repr

/-- What is said about a rejected configuration. -/
def complaint (e : Configuration.Error) : String :=
  "Invalid configuration: " ++ e.message

/-- What is said if there can be no log. -/
def loggingComplaint (reason : String) : String :=
  "Failed to initialize logging: " ++ reason

/-- The variable that holds the filter of the log. -/
def filterVariable : String := "RUST_LOG"

/-- The entries that the log shows. -/
def Machine.shown (m : Machine) (entries : List Log.Entry) : List Log.Entry :=
  entries.filter (Log.Filter.ofVariable (m.vars filterVariable)).admits

/-- Run the daemon until it stops by itself, or is interrupted while it listens. -/
def run (m : Machine) (course : Course) : Report :=
  match Configuration.read m.vars with
  | .error e => { succeeds := false, complaint := some (complaint e) }
  | .ok c =>
    match m.loggingFault? with
    | some reason => { succeeds := false, complaint := some (loggingComplaint reason) }
    | none =>
      let s := start c m
      match s.outcome with
      | .error fault =>
        { succeeds := false, log := m.shown (s.log ++ [faultEntry fault]), logFormat := c.logFormat }
      | .ok (client, w) =>
        -- The watcher starts before the daemon listens, and without listening it is dropped where it is.
        let watched? := (watch c.checkInterval (course.moreLooks + 1) (m.context client) w).1
        let watched := m.shown ((watched?.map Prod.snd).getD [])
        match listen c m with
        | .error fault =>
          { succeeds := false, logFormat := c.logFormat
            log := m.shown s.log ++ merge course.order (watched.take course.cut) (m.shown [faultEntry fault]) }
        | .ok own =>
          -- The daemon ends well if the watcher comes to an end.
          { succeeds := watched?.isSome, logFormat := c.logFormat
            log := m.shown s.log ++ merge course.order watched (m.shown own) }

end OperatorDaemon.Daemon
