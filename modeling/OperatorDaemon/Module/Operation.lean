import OperatorDaemon.Module.Answer
import OperatorDaemon.Session.Login

/-!
# Operations of the modules

What a registered node can do in the modules of the service. An operation makes one call, or the same call
twice with a login in between. The errors that it has flags for become flags, and any other is reported
with the name of the operation.
-/

namespace OperatorDaemon.Module

open Service (Call DepositData Error ExitMessage SignatureReply)

/-- An operation of a module. -/
inductive Operation where
  /-- List the vaults. -/
  | vaults (deployment : String)
  /-- List the validators of a vault. -/
  | registeredValidators (deployment : String) (vault : Address)
  /-- Count the validators of a vault. -/
  | validatorCounts (deployment : String) (vault : Address)
  /-- Have validators signed by the manager of a vault. There is one exit message for each deposit. -/
  | managerSignature (deployment : String) (vault : Address) (beaconDepositRoot : Root)
      (deposits : List DepositData) (exitMessages : List String)
  /-- Look up the registered address. -/
  | registeredAddress (deployment : String)
  /-- Get the signature that registers the node. -/
  | registrationSignature (deployment : String)
  /-- Get the signature that permits a deposit. -/
  | depositSignature (deployment : String) (minipool : Address) (salt : Salt)
  /-- List the validators of the node. -/
  | minipoolValidators (deployment : String)
  /-- Hand in exit messages. -/
  | uploadExits (deployment : String) (messages : List ExitMessage)

namespace Operation

/-- The name of an operation in reports. -/
def name : Operation → String
  | vaults _ => "getting StakeWise vaults"
  | registeredValidators .. => "getting registered validators"
  | validatorCounts .. => "getting validators info for node account"
  | managerSignature .. => "getting validator manager signature"
  | registeredAddress _ => "getting registered Constellation address"
  | registrationSignature _ => "registering with Constellation"
  | depositSignature .. => "getting deposit signature"
  | minipoolValidators _ => "getting validators for node"
  | uploadExits .. => "submitting signed exit messages"

/-- The flags of an operation, in the order in which they are written. -/
def flags : Operation → List Flag
  | vaults _ | registeredAddress _ | minipoolValidators _ => [.notRegistered, .invalidPermissions]
  | registeredValidators .. => [.notRegistered, .invalidPermissions, .vaultNotFound]
  | validatorCounts .. => [.notRegistered, .vaultNotFound]
  | managerSignature .. =>
    [.notRegistered, .vaultNotFound, .invalidPermissions, .depositRootAlreadyUsed]
  | registrationSignature _ | depositSignature .. =>
    [.notRegistered, .notAuthorized, .invalidPermissions, .incorrectNodeAddress]
  | uploadExits .. => [.notRegistered, .invalidPermissions, .incorrectNodeAddress]

/-- The data of a refused operation. -/
def blank : Operation → Payload
  | vaults _ => .vaults []
  | registeredValidators .. => .vaultValidators []
  | validatorCounts .. => .counts ⟨0, 0, 0⟩
  | managerSignature .. => .signatureText ""
  | registeredAddress _ => .registeredAddress none
  | registrationSignature _ | depositSignature .. => .signature []
  | minipoolValidators _ => .minipoolValidators []
  | uploadExits .. => .nothing

/-- Why an operation cannot even be tried. -/
def fault? : Operation → Option Error
  | managerSignature _ _ _ deposits exitMessages =>
    if deposits.length = exitMessages.length then none
    else some (.invalidInput
      (s!"deposit data and exit messages lengths don't match ({deposits.length} vs " ++
        s!"{exitMessages.length})"))
  | _ => none

/-- The bytes of a signature. -/
def signatureBytes (s : SignatureReply) : Except Error Payload :=
  match Hex.decode s.signature with
  | .ok bytes => .ok (.signature bytes)
  | .error fault =>
    .error (.invalidResponse ("error decoding signature from server: " ++ fault.message))

/-- The call of an operation, and what is made of its data. -/
def call : Operation → (c : Call) × (c.Data → Except Error Payload)
  | vaults deployment => ⟨.vaults deployment, fun data => .ok (.vaults data.vaults)⟩
  | registeredValidators deployment vault =>
    ⟨.vaultValidators deployment vault, fun data => .ok (.vaultValidators data.validators)⟩
  | validatorCounts deployment vault =>
    ⟨.validatorCounts deployment vault, fun data => .ok (.counts data)⟩
  | managerSignature deployment vault beaconDepositRoot deposits exitMessages =>
    ⟨.postValidators deployment vault ⟨deposits.zipWith (⟨·, ·⟩) exitMessages, beaconDepositRoot⟩,
      fun data => .ok (.signatureText data.signature)⟩
  | registeredAddress deployment =>
    ⟨.whitelisting deployment, fun data =>
      .ok (.registeredAddress (if data.whitelisted then some data.address else none))⟩
  | registrationSignature deployment => ⟨.postWhitelisting deployment, signatureBytes⟩
  | depositSignature deployment minipool salt =>
    ⟨.depositSignature deployment ⟨minipool, salt⟩, signatureBytes⟩
  | minipoolValidators deployment =>
    ⟨.minipoolValidators deployment, fun data => .ok (.minipoolValidators data.validators)⟩
  | uploadExits deployment messages =>
    ⟨.uploadExits deployment ⟨messages⟩, fun _ => .ok .nothing⟩

/-- The flag of an error. -/
def flagOf? (o : Operation) (e : Error) : Option Flag :=
  o.flags.find? fun flag => flag.error? = some e

/-- What an error of an operation amounts to. -/
def refusal (o : Operation) (e : Error) : Except Error Answer :=
  match o.flagOf? e with
  | some flag => .ok (.refused flag)
  | none => .error (.during o.name e)

/-- Carry out an operation. -/
def run (o : Operation) : Act (Except Error Answer) := do
  match o.fault? with
  | some error => return .error error
  | none =>
    match ← Act.request o.call.1 with
    | .error error => return o.refusal error
    | .ok data =>
      match o.call.2 data with
      | .ok payload => return .ok (.granted payload)
      | .error error => return .error (.during o.name error)

/-- The JSON form of an answer to an operation. -/
def toJson (o : Operation) (a : Answer) : Json.Value :=
  let payload := match a with
    | .granted payload => payload
    | .refused _ => o.blank
  .object (o.flags.map (fun flag => (flag.name, .bool (a.flag? = some flag))) ++ payload.members)

end Operation

end OperatorDaemon.Module
