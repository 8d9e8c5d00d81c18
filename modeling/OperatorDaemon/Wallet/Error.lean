/-!
# Errors of the wallet
-/

namespace OperatorDaemon.Wallet

/-- What can go wrong with the wallet. -/
inductive Error where
  /-- No key is loaded. -/
  | notLoaded
  /-- A text or a file holds no key. -/
  | invalidKey (reason : String)
  /-- A key file cannot be used. -/
  | keyFile (reason : String)
  /-- A message could not be signed. -/
  | signing (reason : String)
  deriving DecidableEq, Repr

/-- The wording of an error. -/
def Error.message : Error → String
  | .notLoaded => "node wallet is not loaded"
  | .invalidKey reason => "Invalid private key: " ++ reason
  | .keyFile reason => "Key file error: " ++ reason
  | .signing reason => "Signing failed: " ++ reason

end OperatorDaemon.Wallet
