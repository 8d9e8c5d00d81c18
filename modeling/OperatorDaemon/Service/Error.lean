import OperatorDaemon.Wallet.Error

/-!
# Errors of the service

What can go wrong between the daemon and the service, from an unfit wallet over refusals of the service
to replies that make no sense. An error may carry the names of the operations in which it arose.
-/

namespace OperatorDaemon.Service

/-- An error in dealing with the service. -/
inductive Error where
  /-- No key is loaded that fits the node address. -/
  | walletNotReady
  /-- No key is loaded. -/
  | walletNotLoaded
  /-- A text is no email address. -/
  | invalidEmail (text : String)
  /-- Something given by the operator is not acceptable. -/
  | invalidInput (text : String)
  /-- The token is missing, expired or revoked. -/
  | invalidSession
  /-- The node belongs to no user. -/
  | unregisteredNode
  /-- The node already belongs to a user. -/
  | alreadyRegistered
  /-- The user has not allowed the node. -/
  | notWhitelisted
  /-- The user may not use the module. -/
  | invalidPermissions
  /-- There is no such vault. -/
  | vaultNotFound
  /-- A signature has been given out for the deposit root. -/
  | depositRootAlreadyAssigned
  /-- The node may not use the module. -/
  | nodeUnauthorized
  /-- The node is not the one that the user registered. -/
  | incorrectNodeAddress
  /-- No reply came. -/
  | transport (text : String)
  /-- A refusal without a meaning of its own. -/
  | api (status : Nat) (code message : String)
  /-- A reply makes no sense. -/
  | invalidResponse (text : String)
  /-- An error that arose in an operation. -/
  | during (operation : String) (source : Error)
  deriving DecidableEq, Repr

namespace Error

/-- The wording of an error. -/
def message : Error → String
  | walletNotReady => "can't log into nodeset, hyperdrive wallet not initialized yet"
  | walletNotLoaded => "node wallet is not loaded"
  | invalidEmail text => "invalid email address: " ++ text
  | invalidInput text => "invalid input: " ++ text
  | invalidSession => "session is invalid or has expired"
  | unregisteredNode => "node is not registered with NodeSet"
  | alreadyRegistered => "node is already registered with NodeSet"
  | notWhitelisted => "node address has not been whitelisted by the user"
  | invalidPermissions => "user does not have permission for this module"
  | vaultNotFound => "vault not found"
  | depositRootAlreadyAssigned => "beacon deposit root has already been assigned"
  | nodeUnauthorized => "node is not authorized"
  | incorrectNodeAddress => "node address does not match the registered node"
  | transport text => "NodeSet request failed: " ++ text
  | api status code text => s!"NodeSet returned {status} ({code}): {text}"
  | invalidResponse text => "NodeSet response was invalid: " ++ text
  | during operation source => "error " ++ operation ++ ": " ++ source.message

/-- The error without the operations in which it arose. -/
def root : Error → Error
  | during _ source => source.root
  | error => error

/-- Whether the session has to be opened anew. -/
def isInvalidSession (e : Error) : Bool :=
  e.root = invalidSession

/-- The error that a refusal with some key stands for. -/
def ofKey (status : Nat) (key text : String) : Error :=
  match key with
  | "invalid_session" => invalidSession
  | "unregistered_node" => unregisteredNode
  | "already_registered" => alreadyRegistered
  | "not_whitelisted" => notWhitelisted
  | "wallet_not_loaded" => walletNotLoaded
  | "invalid_permissions" => invalidPermissions
  | "vault_not_found" => vaultNotFound
  | "deposit_root_already_assigned" => depositRootAlreadyAssigned
  | "node_unauthorized" => nodeUnauthorized
  | "incorrect_node_address" => incorrectNodeAddress
  | _ => api status key text

/-- The error that a wallet error amounts to. -/
def ofWallet : Wallet.Error → Error
  | .notLoaded => walletNotLoaded
  | error => invalidInput error.message

@[simp] theorem message_during (operation : String) (e : Error) :
    (during operation e).message = "error " ++ operation ++ ": " ++ e.message := rfl

@[simp] theorem root_during (operation : String) (e : Error) :
    (during operation e).root = e.root := rfl

@[simp] theorem isInvalidSession_during (operation : String) (e : Error) :
    (during operation e).isInvalidSession = e.isInvalidSession := rfl

end Error

end OperatorDaemon.Service
