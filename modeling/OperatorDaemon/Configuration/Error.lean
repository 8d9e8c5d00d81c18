/-!
# Settings

The settings of the daemon, the variables that hold them, and what is reported about a value that is not
acceptable.
-/

namespace OperatorDaemon

/-- A setting of the daemon. -/
inductive Setting where
  /-- The network. -/
  | network
  /-- The URL of the service, if not that of the network. -/
  | serviceUrl
  /-- How long a request to the service may take. -/
  | timeout
  /-- The address to listen on. -/
  | host
  /-- The port to listen on. -/
  | port
  /-- The file of the key. -/
  | keyPath
  /-- The node address, for a daemon without a key. -/
  | nodeAddress
  /-- The time between two looks at the registration status. -/
  | checkInterval
  /-- The form of the log. -/
  | logFormat
  deriving DecidableEq, Repr

/-- The variable that holds a setting. -/
def Setting.variableName : Setting → String
  | network => "HYPERDRIVE_NETWORK"
  | serviceUrl => "NODESET_API_URL"
  | timeout => "CLIENT_TIMEOUT_SECS"
  | host => "HOST"
  | port => "PORT"
  | keyPath => "WALLET_KEY_PATH"
  | nodeAddress => "NODE_ADDRESS"
  | checkInterval => "REGISTRATION_CHECK_INTERVAL_SECS"
  | logFormat => "LOG_FORMAT"

/-- A value that is not acceptable. -/
structure Configuration.Error where
  /-- The setting. -/
  setting : Setting
  /-- Why the value is not acceptable. -/
  reason : String
  deriving DecidableEq, Repr

/-- The wording of an error. -/
def Configuration.Error.message (e : Configuration.Error) : String :=
  "invalid value for " ++ e.setting.variableName ++ ": " ++ e.reason

end OperatorDaemon
