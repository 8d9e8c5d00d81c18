import OperatorDaemon.Text.Ascii
import OperatorDaemon.Text.Blank

/-!
# Networks

The networks that the daemon works on. Each has a service of its own or shares one.
-/

namespace OperatorDaemon

/-- A network. -/
inductive Network where
  /-- The main network. -/
  | mainnet
  /-- The test network. -/
  | hoodi
  /-- The test network with the service for trials. -/
  | hoodiDev
  deriving DecidableEq, Repr, Inhabited

namespace Network

/-- The name of a network. -/
def name : Network → String
  | mainnet => "mainnet"
  | hoodi => "hoodi"
  | hoodiDev => "hoodi-dev"

/-- The text of the URL of the service. -/
def serviceUrl : Network → String
  | mainnet | hoodi => "https://nodeset.io/api"
  | hoodiDev => "https://staging.nodeset.io/api"

/-- The network of a name, with blanks around it and in any case, or why there is none. -/
def read (text : String) : Except String Network :=
  let name := asciiLowerText (trim text)
  match [mainnet, hoodi, hoodiDev].find? (·.name = name) with
  | some network => .ok network
  | none => .error ("unknown network '" ++ name ++ "'")

end Network

end OperatorDaemon
