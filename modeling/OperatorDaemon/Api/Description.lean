import OperatorDaemon.Api.Router

/-!
# The description of the local interface

Which routes there are, what they take and with which statuses they answer, and of which members their
input and their answers consist. The names come from the definitions that read and write the data, so
that the description cannot disagree with them.
-/

namespace OperatorDaemon.Api

open Json (Codec)
open OperatorDaemon.Module (Operation)
open Service (DepositData ExitMessage MinipoolValidator Vault VaultValidator)

/-- Names in order. -/
def sortNames (names : List String) : List String :=
  names.mergeSort

/-! ### Routes -/

/-- What is told about a route. -/
structure RouteDescription where
  /-- The method. -/
  method : String
  /-- The path. -/
  path : String
  /-- The part of the interface that the route belongs to. -/
  tag : String
  /-- The statuses of its answers, in order. -/
  statuses : List Nat
  /-- The names of the values in its query, in order. -/
  parameters : List String
  deriving DecidableEq, Repr

namespace ModuleRoute

/-- The part of the interface that a route to a module belongs to. -/
def tag : ModuleRoute → String
  | vaults | registeredValidators | validatorsInfo | managerSignature => "StakeWise"
  | registeredAddress | registrationSignature | depositSignature | minipoolValidators
  | uploadExits => "Constellation"

/-- The names of the values in the query of a route to a module. -/
def parameters : ModuleRoute → List String
  | vaults | registeredAddress | registrationSignature | minipoolValidators => deploymentShape.names
  | registeredValidators | validatorsInfo => vaultShape.names
  | depositSignature => depositShape.names
  | managerSignature | uploadExits => []

/-- An operation that a route leads to. -/
def sample : ModuleRoute → Operation
  | vaults => .vaults ""
  | registeredValidators => .registeredValidators "" Address.zero
  | validatorsInfo => .validatorCounts "" Address.zero
  | managerSignature => .managerSignature "" Address.zero default [] []
  | registeredAddress => .registeredAddress ""
  | registrationSignature => .registrationSignature ""
  | depositSignature => .depositSignature "" Address.zero default
  | minipoolValidators => .minipoolValidators ""
  | uploadExits => .uploadExits "" []

/-- The names of the members of an answer. They do not depend on the operation. -/
def answerNames (m : ModuleRoute) : List String :=
  (m.sample.toJson (.refused .notRegistered)).names

end ModuleRoute

namespace Route

/-- The part of the interface that a route belongs to. -/
def tag : Route → String
  | health | liveness => "Health"
  | walletStatus => "Wallet"
  | registrationStatus | registerNode => "NodeSet"
  | module m => m.tag

/-- The statuses that a route is said to answer with. -/
def statuses : Route → List Nat
  | health => [200, 503]
  | liveness | walletStatus | registrationStatus => [200]
  | registerNode | module .managerSignature | module .depositSignature => [200, 400, 409]
  | module _ => [200, 409]

/-- The description of a route. -/
def description (r : Route) : RouteDescription where
  method := r.method
  path := r.path
  tag := r.tag
  statuses := r.statuses
  parameters := match r with
    | module m => sortNames m.parameters
    | health | liveness | walletStatus | registrationStatus | registerNode => []

end Route

/-- The descriptions of all routes, in the order of their paths. -/
def routeDescriptions : List RouteDescription :=
  Route.all.map Route.description

/-! ### Data -/

/-- The names of the members of an answer with a JSON body. -/
def Response.names (r : Response) : List String :=
  match r.body with
  | .json v => v.names
  | .empty | .text _ => []

/-- The kinds of data that the interface takes and gives, each with the names of its members. A kind
without members is a text. -/
def dataKinds : List (String × List String) :=
  let blankStatus : Wallet.Status := Wallet.empty.status {}
  [("AddressStatus", blankStatus.address.toJson.names),
    ("ConstellationRegisteredAddressData", ModuleRoute.registeredAddress.answerNames),
    ("ConstellationSignatureData", ModuleRoute.depositSignature.answerNames),
    ("ConstellationUploadExitsData", ModuleRoute.uploadExits.answerNames),
    ("ConstellationValidatorStatus", (MinipoolValidator.codec.encode default).names),
    ("ConstellationValidatorsData", ModuleRoute.minipoolValidators.answerNames),
    ("DaemonHealth", (healthResponse .ready { lastLogin := some "" }).names),
    ("EncryptedExitData", (ExitMessage.codec.encode default).names),
    ("ErrorBody", (Problem.internal "").toJson.names),
    ("ExtendedDepositData", (DepositData.codec.encode default).names),
    ("HealthStatus", []),
    ("KeystoreStatus", blankStatus.keystore.toJson.names),
    ("Liveness", livenessResponse.names),
    ("RegisterNodeRequest", (emailCodec.encode "").names),
    ("RegisterNodeResponse", (registrationResponse .success).names),
    ("RegistrationStatus", (Status.codec.encode .unknown).names),
    ("RegistrationStatusResponse", (statusResponse .unknown none).names),
    ("StakeWiseRegisteredValidatorsData", ModuleRoute.registeredValidators.answerNames),
    ("StakeWiseValidatorManagerSignatureData", ModuleRoute.managerSignature.answerNames),
    ("StakeWiseValidatorStatus", (VaultValidator.codec.encode default).names),
    ("StakeWiseValidatorsInfoData", ModuleRoute.validatorsInfo.answerNames),
    ("StakeWiseVaultsData", ModuleRoute.vaults.answerNames),
    ("UploadSignedExitsRequest", exitsShape.names),
    ("ValidatorManagerSignatureRequest", validatorsShape.names),
    ("VaultInfo", (Vault.codec.encode default).names),
    ("WalletReadiness", []),
    ("WalletStatus", blankStatus.toJson.names),
    ("WalletStatusResponse", (walletResponse blankStatus).names)].map
    fun (title, names) => (title, sortNames names)

end OperatorDaemon.Api
