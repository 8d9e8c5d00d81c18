import OperatorDaemon.Api.Problem
import OperatorDaemon.Api.Request
import OperatorDaemon.Module.Operation

/-!
# Routes

The routes of the local interface, and the input of those that lead to the modules of the service.

Beside them, a library serves pages about the interface, at `/docs` and below, and its description, at
`/api-doc/openapi.json`. They are the same for everybody at all times and have no effect, and they are left out
here; what the description says of routes and members is in `OperatorDaemon.Api.Description`.
-/

namespace OperatorDaemon.Api

open Json (Codec RecordField Shape)
open OperatorDaemon.Module (Operation)
open Service (DepositData ExitMessage addressCodec required rootCodec)

/-- A route to a module of the service. -/
inductive ModuleRoute where
  /-- List the vaults. -/
  | vaults
  /-- List the validators of a vault. -/
  | registeredValidators
  /-- Count the validators of a vault. -/
  | validatorsInfo
  /-- Have validators signed by the manager of a vault. -/
  | managerSignature
  /-- Look up the registered address. -/
  | registeredAddress
  /-- Get the signature that registers the node. -/
  | registrationSignature
  /-- Get the signature that permits a deposit. -/
  | depositSignature
  /-- List the validators of the node. -/
  | minipoolValidators
  /-- Hand in exit messages. -/
  | uploadExits
  deriving DecidableEq, Repr

/-- A route of the local interface. The pages about it are not among them. -/
inductive Route where
  /-- Whether the wallet is ready. -/
  | health
  /-- Whether the daemon runs. -/
  | liveness
  /-- The status of the wallet. -/
  | walletStatus
  /-- The registration status. -/
  | registrationStatus
  /-- Register the node. -/
  | registerNode
  /-- A route to a module. -/
  | module (m : ModuleRoute)
  deriving DecidableEq, Repr

namespace Route

/-- All routes, in the order of their paths. -/
def all : List Route :=
  [.module .depositSignature, .module .registeredAddress, .module .registrationSignature,
    .module .minipoolValidators, .module .uploadExits, .registrationStatus, .registerNode,
    .module .registeredValidators, .module .managerSignature, .module .validatorsInfo,
    .module .vaults, .walletStatus, .health, .liveness]

/-- The path of a route. -/
def path : Route → String
  | health => "/health"
  | liveness => "/health/live"
  | walletStatus => "/api/v1/wallet/status"
  | registrationStatus => "/api/v1/nodeset/get-registration-status"
  | registerNode => "/api/v1/nodeset/register-node"
  | module .vaults => "/api/v1/nodeset/stakewise/get-vaults"
  | module .registeredValidators => "/api/v1/nodeset/stakewise/get-registered-validators"
  | module .validatorsInfo => "/api/v1/nodeset/stakewise/get-validators-info"
  | module .managerSignature => "/api/v1/nodeset/stakewise/get-validator-manager-signature"
  | module .registeredAddress => "/api/v1/nodeset/constellation/get-registered-address"
  | module .registrationSignature => "/api/v1/nodeset/constellation/get-registration-signature"
  | module .depositSignature => "/api/v1/nodeset/constellation/get-deposit-signature"
  | module .minipoolValidators => "/api/v1/nodeset/constellation/get-validators"
  | module .uploadExits => "/api/v1/nodeset/constellation/upload-signed-exits"

/-- Whether a route takes its input from the body of a request. -/
def takesBody : Route → Bool
  | registerNode | module .managerSignature | module .uploadExits => true
  | health | liveness | walletStatus | registrationStatus | module .vaults
  | module .registeredValidators | module .validatorsInfo | module .registeredAddress
  | module .registrationSignature | module .depositSignature | module .minipoolValidators => false

/-- The method of a route. -/
def method (r : Route) : String :=
  if r.takesBody then "POST" else "GET"

/-- The methods that a route answers. -/
def allowed (r : Route) : List String :=
  if r.takesBody then ["POST"] else ["GET", "HEAD"]

/-- The route with a path. -/
def ofPath? (path : String) : Option Route :=
  all.find? (·.path = path)

end Route

/-! ### Input -/

/-- The codec of the email address under which the node is registered. -/
def emailCodec : Codec String :=
  (Codec.record "RegisterNodeRequest" (.cons (required "email" .string) .nil)).imap
    (fun (email, ()) => email) (fun email => (email, ()))

/-- The fields that name a deployment. -/
def deploymentShape : Shape (String × Unit) (Option String × Unit) :=
  .cons (required "deployment" .string) .nil

/-- The fields that name a vault. -/
def vaultShape : Shape (String × Address × Unit) (Option String × Option Address × Unit) :=
  .cons (required "deployment" .string) <| .cons (required "vault" addressCodec) .nil

/-- The fields that describe a deposit. -/
def depositShape : Shape (String × Address × String × Unit)
    (Option String × Option Address × Option String × Unit) :=
  .cons (required "deployment" .string) <| .cons (required "minipoolAddress" addressCodec) <|
    .cons (required "salt" .string) .nil

/-- The fields of validators to be signed. -/
def validatorsShape : Shape (String × Address × Root × List DepositData × List String × Unit)
    (Option String × Option Address × Option Root × Option (List DepositData) ×
      Option (List String) × Unit) :=
  .cons (required "deployment" .string) <| .cons (required "vault" addressCodec) <|
    .cons (required "beaconDepositRoot" rootCodec) <|
    .cons (required "depositData" (.list DepositData.codec)) <|
    .cons (required "encryptedExitMessages" (.list .string)) .nil

/-- The fields of exit messages to be handed in. -/
def exitsShape : Shape (String × List ExitMessage × Unit)
    (Option String × Option (List ExitMessage) × Unit) :=
  .cons (required "deployment" .string) <|
    .cons (required "exitMessages" (.list ExitMessage.codec)) .nil

/-- The input of a route to a module: a deployment and the operation on it. -/
structure ModuleInput where
  /-- The name of the deployment, as it is given. -/
  deployment : String
  /-- The operation on a deployment, unless something else is wrong with the input. -/
  operation : String → Except Problem Operation

/-- The salt that a text stands for. -/
def readSalt (text : String) : Except Problem Salt :=
  (Salt.parse (trim text)).mapError fun fault =>
    .badRequest ("invalid salt '" ++ text ++ "': " ++ fault.message)

/-- Read the input of a route to a module. -/
def ModuleRoute.readInput (m : ModuleRoute) (r : Request) : Except Rejection ModuleInput :=
  let deploymentOnly (of : String → Operation) : Except Rejection ModuleInput :=
    (r.readQuery (Codec.record "DeploymentQuery" deploymentShape)).map fun (deployment, ()) =>
      ⟨deployment, fun d => .ok (of d)⟩
  let withVault (of : String → Address → Operation) : Except Rejection ModuleInput :=
    (r.readQuery (Codec.record "VaultQuery" vaultShape)).map fun (deployment, vault, ()) =>
      ⟨deployment, fun d => .ok (of d vault)⟩
  match m with
  | .vaults => deploymentOnly .vaults
  | .registeredValidators => withVault .registeredValidators
  | .validatorsInfo => withVault .validatorCounts
  | .registeredAddress => deploymentOnly .registeredAddress
  | .registrationSignature => deploymentOnly .registrationSignature
  | .minipoolValidators => deploymentOnly .minipoolValidators
  | .depositSignature =>
    (r.readQuery (Codec.record "DepositSignatureQuery" depositShape)).map
      fun (deployment, minipool, salt, ()) =>
        ⟨deployment, fun d => (readSalt salt).map (.depositSignature d minipool)⟩
  | .managerSignature =>
    (r.readBody (Codec.record "ValidatorManagerSignatureRequest" validatorsShape)).map
      fun (deployment, vault, root, deposits, exitMessages, ()) =>
        ⟨deployment, fun d => .ok (.managerSignature d vault root deposits exitMessages)⟩
  | .uploadExits =>
    (r.readBody (Codec.record "UploadSignedExitsRequest" exitsShape)).map
      fun (deployment, messages, ()) =>
        ⟨deployment, fun d => .ok (.uploadExits d messages)⟩

/-- The operation that input asks for. A deployment has to be named. -/
def ModuleInput.resolve (i : ModuleInput) : Except Problem Operation :=
  if isBlankText i.deployment then .error (.badRequest "deployment is required")
  else i.operation (trim i.deployment)

end OperatorDaemon.Api
