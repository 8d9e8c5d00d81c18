import OperatorDaemon.Ethereum.Address
import OperatorDaemon.Json.Record

/-!
# What the service and the daemon send each other

The data inside the service's replies and the bodies of the requests made to it, each with its JSON form.
-/

namespace OperatorDaemon.Service

open Json (Codec RecordField Shape)

/-- A field that is always written and has to be there. -/
def required {β : Type} (name : String) (codec : Codec β) : RecordField β := { name, codec }

/-- The codec of addresses. -/
def addressCodec : Codec Address := Codec.fixedBytes 20

/-- The codec of roots. -/
def rootCodec : Codec Root := Codec.fixedBytes 32

/-- The data of a reply that carries none. -/
structure NoData where
  deriving DecidableEq, Repr, Inhabited

/-- The JSON form of no data. -/
def NoData.codec : Codec NoData :=
  (Codec.record "Empty" .nil).imap (fun _ => {}) (fun _ => ())

/-! ### Logging in -/

/-- A challenge to sign, with the provisional token that goes with it. -/
structure Challenge where
  /-- The text to sign. -/
  nonce : String
  /-- The provisional token. -/
  token : String
  deriving DecidableEq, Repr, Inhabited

/-- The JSON form of a challenge. -/
def Challenge.codec : Codec Challenge :=
  (Codec.record "NonceData" <|
    .cons (required "nonce" .string) <| .cons (required "token" .string) .nil).imap
    (fun (nonce, token, ()) => ⟨nonce, token⟩) (fun c => (c.nonce, c.token, ()))

/-- The answer to a challenge. -/
structure LoginRequest where
  /-- The text of the challenge. -/
  nonce : String
  /-- The address whose key signed. -/
  address : String
  /-- The signature. -/
  signature : String
  deriving DecidableEq, Repr, Inhabited

/-- The JSON form of the answer to a challenge. -/
def LoginRequest.codec : Codec LoginRequest :=
  (Codec.record "LoginRequest" <|
    .cons (required "nonce" .string) <| .cons (required "address" .string) <|
    .cons (required "signature" .string) .nil).imap
    (fun (nonce, address, signature, ()) => ⟨nonce, address, signature⟩)
    (fun r => (r.nonce, r.address, r.signature, ()))

/-- The token of a session. -/
structure Grant where
  /-- The token. -/
  token : String
  deriving DecidableEq, Repr, Inhabited

/-- The JSON form of a grant. -/
def Grant.codec : Codec Grant :=
  (Codec.record "LoginData" <| .cons (required "token" .string) .nil).imap
    (fun (token, ()) => ⟨token⟩) (fun g => (g.token, ()))

/-- The wish to register a node under an email address. -/
structure NodeAddressRequest where
  /-- The email address. -/
  email : String
  /-- The address of the node. -/
  nodeAddress : String
  /-- The signature of the node. -/
  signature : String
  deriving DecidableEq, Repr, Inhabited

/-- The JSON form of the wish to register. -/
def NodeAddressRequest.codec : Codec NodeAddressRequest :=
  (Codec.record "NodeAddressRequest" <|
    .cons (required "email" .string) <| .cons (required "nodeAddress" .string) <|
    .cons (required "signature" .string) .nil).imap
    (fun (email, nodeAddress, signature, ()) => ⟨email, nodeAddress, signature⟩)
    (fun r => (r.email, r.nodeAddress, r.signature, ()))

/-! ### StakeWise -/

/-- A vault of a deployment. -/
structure Vault where
  /-- The name. -/
  name : String
  /-- The address. -/
  address : Address
  deriving DecidableEq, Inhabited

/-- The JSON form of a vault. -/
def Vault.codec : Codec Vault :=
  (Codec.record "VaultInfo" <|
    .cons (required "name" .string) <| .cons (required "address" addressCodec) .nil).imap
    (fun (name, address, ()) => ⟨name, address⟩) (fun v => (v.name, v.address, ()))

/-- The vaults of a deployment. -/
structure Vaults where
  /-- The vaults. -/
  vaults : List Vault
  deriving DecidableEq, Inhabited

/-- The JSON form of the vaults of a deployment. -/
def Vaults.codec : Codec Vaults :=
  (Codec.record "VaultsData" <| .cons (required "vaults" (.list Vault.codec)) .nil).imap
    (fun (vaults, ()) => ⟨vaults⟩) (fun v => (v.vaults, ()))

/-- A validator on record for a vault. -/
structure VaultValidator where
  /-- The public key. -/
  pubkey : String
  /-- What the service says about it. -/
  status : String
  /-- Whether its exit message has been uploaded. -/
  exitMessageUploaded : Bool
  deriving DecidableEq, Repr, Inhabited

/-- The JSON form of a validator of a vault. -/
def VaultValidator.codec : Codec VaultValidator :=
  (Codec.record "StakeWiseValidatorStatus" <|
    .cons (required "pubkey" .string) <| .cons (required "status" .string) <|
    .cons (required "exitMessageUploaded" .bool) .nil).imap
    (fun (pubkey, status, uploaded, ()) => ⟨pubkey, status, uploaded⟩)
    (fun v => (v.pubkey, v.status, v.exitMessageUploaded, ()))

/-- The validators on record for a vault. -/
structure VaultValidators where
  /-- The validators. -/
  validators : List VaultValidator
  deriving DecidableEq, Repr, Inhabited

/-- The JSON form of the validators of a vault. -/
def VaultValidators.codec : Codec VaultValidators :=
  (Codec.record "StakeWiseValidatorsData" <|
    .cons (required "validators" (.list VaultValidator.codec)) .nil).imap
    (fun (validators, ()) => ⟨validators⟩) (fun v => (v.validators, ()))

/-- How many validators a node has and may have on a vault. -/
structure ValidatorCounts where
  /-- The validators there are. -/
  active : UInt32
  /-- The validators there may be. -/
  max : UInt32
  /-- The validators that may be added. -/
  available : UInt32
  deriving DecidableEq, Repr, Inhabited

/-- The JSON form of the counts. -/
def ValidatorCounts.codec : Codec ValidatorCounts :=
  (Codec.record "ValidatorsMetaData" <|
    .cons (required "active" .uint32) <| .cons (required "max" .uint32) <|
    .cons (required "available" .uint32) .nil).imap
    (fun (active, max, available, ()) => ⟨active, max, available⟩)
    (fun c => (c.active, c.max, c.available, ()))

/-- The deposit of one validator. -/
structure DepositData where
  /-- The public key. -/
  pubkey : String
  /-- Where withdrawals go. -/
  withdrawalCredentials : String
  /-- The amount. -/
  amount : UInt64
  /-- The signature. -/
  signature : String
  /-- The root of the message. -/
  depositMessageRoot : String
  /-- The root of the data. -/
  depositDataRoot : String
  /-- The version of the fork. -/
  forkVersion : String
  /-- The name of the network. -/
  networkName : String
  deriving DecidableEq, Repr, Inhabited

/-- The JSON form of a deposit. -/
def DepositData.codec : Codec DepositData :=
  (Codec.record "ExtendedDepositData" <|
    .cons (required "pubkey" .string) <| .cons (required "withdrawal_credentials" .string) <|
    .cons (required "amount" .uint64) <| .cons (required "signature" .string) <|
    .cons (required "deposit_message_root" .string) <|
    .cons (required "deposit_data_root" .string) <|
    .cons (required "fork_version" .string) <| .cons (required "network_name" .string) .nil).imap
    (fun (pubkey, credentials, amount, signature, messageRoot, dataRoot, version, network, ()) =>
      ⟨pubkey, credentials, amount, signature, messageRoot, dataRoot, version, network⟩)
    (fun d => (d.pubkey, d.withdrawalCredentials, d.amount, d.signature, d.depositMessageRoot,
      d.depositDataRoot, d.forkVersion, d.networkName, ()))

/-- A deposit together with the exit message of its validator. -/
structure ValidatorRegistration where
  /-- The deposit. -/
  depositData : DepositData
  /-- The encrypted exit message. -/
  exitMessage : String
  deriving DecidableEq, Repr, Inhabited

/-- The JSON form of a deposit with its exit message. -/
def ValidatorRegistration.codec : Codec ValidatorRegistration :=
  (Codec.record "ValidatorRegistrationDetails" <|
    .cons (required "depositData" DepositData.codec) <|
    .cons (required "exitMessage" .string) .nil).imap
    (fun (depositData, exitMessage, ()) => ⟨depositData, exitMessage⟩)
    (fun r => (r.depositData, r.exitMessage, ()))

/-- The wish to register validators on a vault. -/
structure ValidatorsRequest where
  /-- The validators. -/
  validators : List ValidatorRegistration
  /-- The root of the deposit contract. -/
  beaconDepositRoot : Root
  deriving DecidableEq, Inhabited

/-- The JSON form of the wish to register validators. -/
def ValidatorsRequest.codec : Codec ValidatorsRequest :=
  (Codec.record "PostValidatorsRequest" <|
    .cons (required "validators" (.list ValidatorRegistration.codec)) <|
    .cons (required "beaconDepositRoot" rootCodec) .nil).imap
    (fun (validators, root, ()) => ⟨validators, root⟩)
    (fun r => (r.validators, r.beaconDepositRoot, ()))

/-- A signature of the service. -/
structure SignatureReply where
  /-- The hexadecimal text of the signature. -/
  signature : String
  deriving DecidableEq, Repr, Inhabited

/-- The JSON form of a signature of the service. -/
def SignatureReply.codec : Codec SignatureReply :=
  (Codec.record "SignatureData" <| .cons (required "signature" .string) .nil).imap
    (fun (signature, ()) => ⟨signature⟩) (fun s => (s.signature, ()))

/-! ### Constellation -/

/-- Whether the user has registered an address, and which. -/
structure Whitelisting where
  /-- Whether there is an address. -/
  whitelisted : Bool
  /-- The address, or the address of nobody. -/
  address : Address
  deriving DecidableEq, Inhabited

/-- The JSON form of a whitelisting. -/
def Whitelisting.codec : Codec Whitelisting :=
  (Codec.record "WhitelistData" <|
    .cons (required "whitelisted" .bool) <|
    .cons { name := "address", codec := addressCodec, absent := some Address.zero,
            absentItem := some Address.zero } .nil).imap
    (fun (whitelisted, address, ()) => ⟨whitelisted, address⟩)
    (fun w => (w.whitelisted, w.address, ()))

/-- The wish for a signature that permits a minipool deposit. -/
structure DepositSignatureRequest where
  /-- The address of the minipool. -/
  minipoolAddress : Address
  /-- The salt of the minipool. -/
  salt : Salt
  deriving DecidableEq, Inhabited

/-- The JSON form of the wish for a deposit signature. -/
def DepositSignatureRequest.codec : Codec DepositSignatureRequest :=
  (Codec.record "MinipoolDepositSignatureRequest" <|
    .cons (required "minipoolAddress" addressCodec) <| .cons (required "salt" .salt) .nil).imap
    (fun (minipoolAddress, salt, ()) => ⟨minipoolAddress, salt⟩)
    (fun r => (r.minipoolAddress, r.salt, ()))

/-- A validator on record for the node. -/
structure MinipoolValidator where
  /-- The public key. -/
  pubkey : String
  /-- Whether its exit message is wanted. -/
  requiresExitMessage : Bool
  deriving DecidableEq, Repr, Inhabited

/-- The JSON form of a validator of the node. -/
def MinipoolValidator.codec : Codec MinipoolValidator :=
  (Codec.record "ConstellationValidatorStatus" <|
    .cons (required "pubkey" .string) <| .cons (required "requiresExitMessage" .bool) .nil).imap
    (fun (pubkey, requiresExit, ()) => ⟨pubkey, requiresExit⟩)
    (fun v => (v.pubkey, v.requiresExitMessage, ()))

/-- The validators on record for the node. -/
structure MinipoolValidators where
  /-- The validators. -/
  validators : List MinipoolValidator
  deriving DecidableEq, Repr, Inhabited

/-- The JSON form of the validators of the node. -/
def MinipoolValidators.codec : Codec MinipoolValidators :=
  (Codec.record "ConstellationValidatorsData" <|
    .cons (required "validators" (.list MinipoolValidator.codec)) .nil).imap
    (fun (validators, ()) => ⟨validators⟩) (fun v => (v.validators, ()))

/-- The exit message of a validator, encrypted for the service. -/
structure ExitMessage where
  /-- The public key of the validator. -/
  pubkey : String
  /-- The encrypted message. -/
  exitMessage : String
  deriving DecidableEq, Repr, Inhabited

/-- The JSON form of an exit message. -/
def ExitMessage.codec : Codec ExitMessage :=
  (Codec.record "EncryptedExitData" <|
    .cons (required "pubkey" .string) <| .cons (required "exitMessage" .string) .nil).imap
    (fun (pubkey, exitMessage, ()) => ⟨pubkey, exitMessage⟩)
    (fun m => (m.pubkey, m.exitMessage, ()))

/-- Exit messages to upload. -/
structure ExitMessagesRequest where
  /-- The messages. -/
  exitMessages : List ExitMessage
  deriving DecidableEq, Repr, Inhabited

/-- The JSON form of exit messages to upload. -/
def ExitMessagesRequest.codec : Codec ExitMessagesRequest :=
  (Codec.record "ExitMessagesRequest" <|
    .cons (required "exitMessages" (.list ExitMessage.codec)) .nil).imap
    (fun (exitMessages, ()) => ⟨exitMessages⟩) (fun r => (r.exitMessages, ()))

/-! ### Envelopes -/

/-- The envelope around the data of every reply. -/
structure Envelope (α : Type) where
  /-- Whether the service calls it a success. -/
  ok : Bool
  /-- A text for people. -/
  message : String
  /-- The key of the error, empty if there is none. -/
  error : String
  /-- The data. -/
  data : Option α
  deriving DecidableEq, Repr

namespace Envelope

variable {α : Type}

/-- The fields of an envelope. The flag and the texts may be missing; the error key is not written when
it is empty. The data may be missing from an object and not from a list. -/
def shape (data : Codec α) :
    Shape (Bool × String × String × Option α × Unit)
      (Option Bool × Option String × Option String × Option (Option α) × Unit) :=
  .cons { name := "ok", codec := .bool, absent := some false, absentItem := some false } <|
  .cons { name := "message", codec := .string, absent := some "", absentItem := some "" } <|
  .cons { name := "error", codec := .string, absent := some "", absentItem := some "",
          omitted := String.isEmpty } <|
  .cons { name := "data", codec := .option data, absent := some none } .nil

/-- The JSON form of an envelope. -/
def codec (data : Codec α) : Codec (Envelope α) :=
  (Codec.record "Envelope" (shape data)).imap
    (fun (ok, message, error, data, ()) => ⟨ok, message, error, data⟩)
    (fun e => (e.ok, e.message, e.error, e.data, ()))

/-- A success around some data. -/
def success (data : α) : Envelope α := ⟨true, "", "", some data⟩

/-- A failure with an error key. -/
def failure (key message : String) : Envelope NoData := ⟨false, message, key, some {}⟩

end Envelope

/-- Data that is passed over, whatever it is. -/
def ignoredCodec : Codec Unit where
  encode _ := .null
  decode t := match t.skip with
    | .ok () => .ok ()
    | .error fault => .error (.fault fault)

end OperatorDaemon.Service
