import OperatorDaemon.Json.Codec

/-!
# The registration status

What the daemon believes about the registration of its node.
-/

namespace OperatorDaemon

/-- The belief about the registration of the node. -/
inductive Status where
  /-- Nothing is known. -/
  | unknown
  /-- The wallet was not fit for logging in. -/
  | noWallet
  /-- The service does not know the node. -/
  | unregistered
  /-- The service has let the node in. -/
  | registered
  deriving DecidableEq, Repr, Inhabited

namespace Status

/-- The name on the wire. -/
def name : Status → String
  | unknown => "unknown"
  | noWallet => "no-wallet"
  | unregistered => "unregistered"
  | registered => "registered"

/-- The name in messages. -/
def title : Status → String
  | unknown => "Unknown"
  | noWallet => "NoWallet"
  | unregistered => "Unregistered"
  | registered => "Registered"

/-- Whether a completed login established the status. -/
def isKnown : Status → Bool
  | registered | unregistered => true
  | unknown | noWallet => false

/-- The statuses and their names. -/
def variants : List (String × Status) :=
  [unknown, noWallet, unregistered, registered].map fun s => (s.name, s)

/-- The JSON form of a status. -/
def codec : Json.Codec Status := Json.Codec.enumeration variants name

end Status

end OperatorDaemon
