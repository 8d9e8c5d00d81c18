import OperatorDaemon.Service.Wire

/-!
# Calls of the service

What the daemon can ask of the service: how each call is addressed, what it sends, and what the reply
holds if the service grants it.
-/

namespace OperatorDaemon.Service

open Json (Codec)

/-- The method of a request to the service. -/
inductive Method where
  /-- Ask for something. -/
  | get
  /-- Hand something in. -/
  | post
  /-- Add to something. -/
  | patch
  deriving DecidableEq, Repr

/-- The name of a method. -/
def Method.name : Method → String
  | get => "GET"
  | post => "POST"
  | patch => "PATCH"

/-- A call of the service. -/
inductive Call where
  /-- Ask for a challenge. -/
  | nonce
  /-- Answer a challenge. -/
  | login (request : LoginRequest)
  /-- Register the node under an email address. -/
  | nodeAddress (request : NodeAddressRequest)
  /-- List the vaults of a deployment. -/
  | vaults (deployment : String)
  /-- List the validators of a vault. -/
  | vaultValidators (deployment : String) (vault : Address)
  /-- Count the validators of a vault. -/
  | validatorCounts (deployment : String) (vault : Address)
  /-- Hand in validators of a vault for a signature. -/
  | postValidators (deployment : String) (vault : Address) (request : ValidatorsRequest)
  /-- Ask for the registered address. -/
  | whitelisting (deployment : String)
  /-- Ask for the signature that registers the node. -/
  | postWhitelisting (deployment : String)
  /-- Ask for the signature that permits a deposit. -/
  | depositSignature (deployment : String) (request : DepositSignatureRequest)
  /-- List the validators of the node. -/
  | minipoolValidators (deployment : String)
  /-- Hand in exit messages. -/
  | uploadExits (deployment : String) (request : ExitMessagesRequest)

namespace Call

/-- The data of a reply that grants a call. -/
abbrev Data : Call → Type
  | nonce => Challenge
  | login _ => Grant
  | nodeAddress _ => NoData
  | vaults _ => Vaults
  | vaultValidators .. => VaultValidators
  | validatorCounts .. => ValidatorCounts
  | postValidators .. => SignatureReply
  | whitelisting _ => Whitelisting
  | postWhitelisting _ => SignatureReply
  | depositSignature .. => SignatureReply
  | minipoolValidators _ => MinipoolValidators
  | uploadExits .. => NoData

/-- The JSON form of the data. -/
def codec : (c : Call) → Codec c.Data
  | nonce => Challenge.codec
  | login _ => Grant.codec
  | nodeAddress _ => NoData.codec
  | vaults _ => Vaults.codec
  | vaultValidators .. => VaultValidators.codec
  | validatorCounts .. => ValidatorCounts.codec
  | postValidators .. => SignatureReply.codec
  | whitelisting _ => Whitelisting.codec
  | postWhitelisting _ => SignatureReply.codec
  | depositSignature .. => SignatureReply.codec
  | minipoolValidators _ => MinipoolValidators.codec
  | uploadExits .. => NoData.codec

/-- What stands for the data of a reply without any. -/
def absentData? : (c : Call) → Option c.Data
  | nodeAddress _ => some {}
  | uploadExits .. => some {}
  | nonce | login _ | vaults _ | vaultValidators .. | validatorCounts .. | postValidators ..
  | whitelisting _ | postWhitelisting _ | depositSignature .. | minipoolValidators _ => none

/-- The method of a call. -/
def method : Call → Method
  | nonce | vaults _ | vaultValidators .. | validatorCounts .. | whitelisting _
  | minipoolValidators _ => .get
  | login _ | nodeAddress _ | postValidators .. | postWhitelisting _ | depositSignature .. => .post
  | uploadExits .. => .patch

/-- The segments that address a call. -/
def segments : Call → List String
  | nonce => ["core", "nonce"]
  | login _ => ["core", "login"]
  | nodeAddress _ => ["core", "node-address"]
  | vaults deployment => ["modules", "stakewise", deployment, "vaults"]
  | vaultValidators deployment vault | postValidators deployment vault _ =>
    ["modules", "stakewise", deployment, vault.checksummed, "validators"]
  | validatorCounts deployment vault =>
    ["modules", "stakewise", deployment, vault.checksummed, "validators", "meta"]
  | whitelisting deployment | postWhitelisting deployment =>
    ["modules", "constellation", deployment, "whitelist"]
  | depositSignature deployment _ =>
    ["modules", "constellation", deployment, "minipool", "deposit-signature"]
  | minipoolValidators deployment | uploadExits deployment _ =>
    ["modules", "constellation", deployment, "validators"]

/-- The body of a call. -/
def body? : Call → Option Json.Value
  | login request => some (LoginRequest.codec.encode request)
  | nodeAddress request => some (NodeAddressRequest.codec.encode request)
  | postValidators _ _ request => some (ValidatorsRequest.codec.encode request)
  | postWhitelisting _ => some (NoData.codec.encode {})
  | depositSignature _ request => some (DepositSignatureRequest.codec.encode request)
  | uploadExits _ request => some (ExitMessagesRequest.codec.encode request)
  | nonce | vaults _ | vaultValidators .. | validatorCounts .. | whitelisting _
  | minipoolValidators _ => none

/-- Whether a call is made in the name of a session. -/
def usesSession : Call → Bool
  | nonce => false
  | _ => true

end Call

end OperatorDaemon.Service
