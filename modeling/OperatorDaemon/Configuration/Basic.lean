import OperatorDaemon.Configuration.Error
import OperatorDaemon.Configuration.Network
import OperatorDaemon.Ethereum.Address
import OperatorDaemon.Net.IpAddress
import OperatorDaemon.Text.Integer
import OperatorDaemon.Url.Reader

/-!
# The configuration

The configuration that variables stand for. A blank value counts as none, and a value may have blanks
around it. The settings are read in order, and the first value that is not acceptable is reported.
-/

namespace OperatorDaemon

/-- The form of the log. -/
inductive LogFormat where
  /-- A JSON object on each line. -/
  | json
  /-- Text for people. -/
  | pretty
  deriving DecidableEq, Repr, Inhabited

/-- The name of a form of the log. -/
def LogFormat.name : LogFormat → String
  | json => "json"
  | pretty => "pretty"

/-- The configuration of the daemon. -/
structure Configuration where
  /-- The network. -/
  network : Network
  /-- The URL of the service. -/
  serviceUrl : Url
  /-- How many seconds a request to the service may take. -/
  timeout : Nat
  /-- The address to listen on. -/
  host : IpAddress
  /-- The port to listen on. -/
  port : Nat
  /-- The file of the key. -/
  keyPath : Option String
  /-- The node address, for a daemon without a key. -/
  nodeAddress : Option Address
  /-- How many seconds lie between two looks at the registration status. -/
  checkInterval : Nat
  /-- The form of the log. -/
  logFormat : LogFormat
  deriving DecidableEq

namespace Configuration

/-! ### Values -/

/-- A faulty value and what is wrong with it. -/
def complaint (value message : String) : String := value ++ ": " ++ message

/-- The URL of the service. Only two schemes will do. -/
def readUrl (value : String) : Except String Url :=
  match Url.parse (trim value) with
  | .error fault => .error (complaint value fault.message)
  | .ok url =>
    if url.scheme = "http" ∨ url.scheme = "https" then .ok url
    else .error ("unsupported scheme '" ++ url.scheme ++ "'")

/-- A number of at most `limit`. -/
def readNumber (limit : Nat) (value : String) : Except String Nat :=
  (Integer.parse limit (trim value)).mapError fun fault => complaint value fault.message

/-- A number of seconds that is not zero. -/
def readSeconds (value : String) : Except String Nat :=
  match readNumber 0xFFFFFFFFFFFFFFFF value with
  | .ok 0 => .error "must be greater than zero"
  | result => result

/-- The address to listen on. -/
def readHost (value : String) : Except String IpAddress :=
  match IpAddress.parse? (trim value) with
  | some address => .ok address
  | none => .error (complaint value "invalid IP address syntax")

/-- The node address. -/
def readAddress (value : String) : Except String Address :=
  (FixedBytes.parse 20 (trim value)).mapError fun fault => complaint value fault.message

/-- The form of the log. -/
def readLogFormat (value : String) : Except String LogFormat :=
  let name := asciiLowerText (trim value)
  if name = "json" then .ok .json
  else if name = "pretty" then .ok .pretty
  else .error ("expected 'json' or 'pretty', got '" ++ name ++ "'")

/-! ### All settings -/

/-- What variables hold. -/
abbrev Variables := String → Option String

/-- The value of a setting, unless it is blank. -/
def value? (vars : Variables) (s : Setting) : Option String :=
  (vars s.variableName).filter fun value => !isBlankText value

/-- A setting that may be unset. -/
def optional {α : Type} (vars : Variables) (s : Setting) (read : String → Except String α) :
    Except Error (Option α) :=
  match value? vars s with
  | none => .ok none
  | some value =>
    match read value with
    | .ok a => .ok (some a)
    | .error reason => .error ⟨s, reason⟩

/-- A setting with a value for the case that it is unset. -/
def withDefault {α : Type} (vars : Variables) (s : Setting) (default : α)
    (read : String → Except String α) : Except Error α :=
  (optional vars s read).map (·.getD default)

/-- The URL of the service, which is that of the network if none is set. -/
def serviceUrlOf (vars : Variables) (network : Network) : Except Error Url :=
  match readUrl ((value? vars .serviceUrl).getD network.serviceUrl) with
  | .ok url => .ok url
  | .error reason => .error ⟨.serviceUrl, reason⟩

/-- The configuration that variables stand for. -/
def read (vars : Variables) : Except Error Configuration := do
  let network ← withDefault vars .network .mainnet Network.read
  let serviceUrl ← serviceUrlOf vars network
  let timeout ← withDefault vars .timeout 30 readSeconds
  let host ← withDefault vars .host (.v4 .localhost) readHost
  let port ← withDefault vars .port 8080 (readNumber 65535)
  let nodeAddress ← optional vars .nodeAddress readAddress
  let checkInterval ← withDefault vars .checkInterval 15 readSeconds
  let logFormat ← withDefault vars .logFormat .pretty readLogFormat
  return { network, serviceUrl, timeout, host, port, nodeAddress, checkInterval, logFormat
           keyPath := value? vars .keyPath }

/-- The address and the port to listen on. -/
def listenText (c : Configuration) : String :=
  c.host.textWithPort c.port

end Configuration

end OperatorDaemon
