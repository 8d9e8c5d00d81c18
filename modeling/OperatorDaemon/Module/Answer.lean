import OperatorDaemon.Service.Error
import OperatorDaemon.Service.Wire

/-!
# Answers of the modules

A module of the service grants an operation or refuses it for a reason that the operator can act on. Such
a reason is a flag of the answer, and the data of a refused answer are blank.
-/

namespace OperatorDaemon.Module

open Service (Error Vault VaultValidator ValidatorCounts MinipoolValidator)

/-- A reason for a refusal. -/
inductive Flag where
  /-- The node is not registered. -/
  | notRegistered
  /-- The user may not use the module. -/
  | invalidPermissions
  /-- There is no such vault. -/
  | vaultNotFound
  /-- A signature has been given out for the deposit root. -/
  | depositRootAlreadyUsed
  /-- The node may not use the module. -/
  | notAuthorized
  /-- The node is not the one that the user registered. -/
  | incorrectNodeAddress
  deriving DecidableEq, Repr

/-- The name of a flag on the wire. -/
def Flag.name : Flag → String
  | notRegistered => "notRegistered"
  | invalidPermissions => "invalidPermissions"
  | vaultNotFound => "vaultNotFound"
  | depositRootAlreadyUsed => "depositRootAlreadyUsed"
  | notAuthorized => "notAuthorized"
  | incorrectNodeAddress => "incorrectNodeAddress"

/-- The error that a flag stands for. The service has none for a node that is not registered, as such a
node never gets that far. -/
def Flag.error? : Flag → Option Error
  | notRegistered => none
  | invalidPermissions => some .invalidPermissions
  | vaultNotFound => some .vaultNotFound
  | depositRootAlreadyUsed => some .depositRootAlreadyAssigned
  | notAuthorized => some .nodeUnauthorized
  | incorrectNodeAddress => some .incorrectNodeAddress

/-- The data of an answer. -/
inductive Payload where
  /-- Vaults. -/
  | vaults (vaults : List Vault)
  /-- The validators of a vault. -/
  | vaultValidators (validators : List VaultValidator)
  /-- The counts of validators. -/
  | counts (counts : ValidatorCounts)
  /-- A signature as the service gives it. -/
  | signatureText (signature : String)
  /-- The registered address, if there is one. -/
  | registeredAddress (address : Option Address)
  /-- The bytes of a signature. -/
  | signature (bytes : List UInt8)
  /-- The validators of the node. -/
  | minipoolValidators (validators : List MinipoolValidator)
  /-- No data. -/
  | nothing
  deriving DecidableEq

/-- The members that data are written as. -/
def Payload.members : Payload → List (String × Json.Value)
  | vaults vs => [("vaults", (Json.Codec.list Vault.codec).encode vs)]
  | vaultValidators vs => [("validators", (Json.Codec.list VaultValidator.codec).encode vs)]
  | counts c =>
    [("active", .number c.active.toNat), ("max", .number c.max.toNat),
      ("available", .number c.available.toNat)]
  | signatureText s => [("signature", .string s)]
  | registeredAddress a =>
    [("isRegistered", .bool a.isSome),
      ("registeredAddress", (Json.Codec.option Service.addressCodec).encode a)]
  | signature bytes => [("signature", .string (Hex.encodePrefixed bytes))]
  | minipoolValidators vs =>
    [("validators", (Json.Codec.list MinipoolValidator.codec).encode vs)]
  | nothing => []

/-- The answer of a module. -/
inductive Answer where
  /-- The operation is granted. -/
  | granted (payload : Payload)
  /-- The operation is refused. -/
  | refused (flag : Flag)
  deriving DecidableEq

/-- The flag of an answer. -/
def Answer.flag? : Answer → Option Flag
  | granted _ => none
  | refused flag => some flag

end OperatorDaemon.Module
