import OperatorDaemon.Json.Value

/-!
# Log entries

What the daemon says about itself: a level, who says it, a message and what goes with it under names.
-/

namespace OperatorDaemon.Log

/-- How grave an entry is. -/
inductive Level where
  /-- The daemon cannot go on. -/
  | error
  /-- Something is amiss. -/
  | warn
  /-- Something has happened. -/
  | info
  /-- Something that helps to find faults. -/
  | debug
  /-- Everything else. -/
  | trace
  deriving DecidableEq, Repr

namespace Level

/-- The levels in order, the gravest first. -/
def all : List Level := [error, warn, info, debug, trace]

/-- The place of a level, from one for the gravest. -/
def rank : Level → Nat
  | error => 1
  | warn => 2
  | info => 3
  | debug => 4
  | trace => 5

/-- The name of a level. -/
def name : Level → String
  | error => "ERROR"
  | warn => "WARN"
  | info => "INFO"
  | debug => "DEBUG"
  | trace => "TRACE"

end Level

/-- A part of the daemon that logs. -/
inductive Part where
  /-- What starts the daemon and shuts it down. -/
  | daemon
  /-- The wallet. -/
  | wallet
  /-- What is required of a node, and the watch for its registration. -/
  | requirements
  /-- The session with the service. -/
  | session
  /-- The client of the service. -/
  | client
  deriving DecidableEq, Repr

/-- The target under which a part logs. -/
def Part.target : Part → String
  | daemon => "hyperdrive_daemon"
  | wallet => "hyperdrive_daemon::wallet"
  | requirements => "hyperdrive_daemon::requirements"
  | session => "hyperdrive_daemon::nodeset::manager"
  | client => "hyperdrive_daemon::nodeset::client"

/-- Something that goes with a message. -/
inductive Detail where
  /-- A text. -/
  | text (s : String)
  /-- A number. -/
  | number (n : Nat)
  deriving DecidableEq, Repr

namespace Detail

/-- The JSON form of a detail. -/
def toJson : Detail → Json.Value
  | text s => .string s
  | number n => .number n

/-- A detail as text for people. -/
def shown : Detail → String
  | text s => s
  | number n => toString n

end Detail

/-- An entry of the log. -/
structure Entry where
  /-- How grave it is. -/
  level : Level
  /-- Who says it. -/
  part : Part := .daemon
  /-- What it says. -/
  message : String
  /-- What goes with it, under names. -/
  details : List (String × Detail) := []
  deriving DecidableEq, Repr

namespace Entry

/-- The JSON form of the message and what goes with it. -/
def fieldsJson (e : Entry) : Json.Value :=
  .object (("message", .string e.message) :: e.details.map fun (name, detail) => (name, detail.toJson))

/-- The JSON form of an entry. -/
def toJson (e : Entry) : Json.Value :=
  .object [("level", .string e.level.name), ("fields", e.fieldsJson), ("target", .string e.part.target)]

/-- An entry as text for people. -/
def text (e : Entry) : String :=
  e.level.name ++ " " ++ e.part.target ++ ": " ++ e.message ++
    String.join (e.details.map fun (name, detail) => " " ++ name ++ "=" ++ detail.shown)

end Entry

end OperatorDaemon.Log
