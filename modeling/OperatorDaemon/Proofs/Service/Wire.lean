import OperatorDaemon.Proofs.Json.RoundTrip
import OperatorDaemon.Service.Wire
import OperatorDaemon.Session.Status

/-!
# What is sent is what arrives

Everything that the daemon and the service send each other, in an envelope or by itself, is read back from
the text it is written as.
-/

namespace OperatorDaemon

open Json (Codec Shape)

lemma Status.faithful : Status.codec.Faithful := by
  refine .enumeration ?_
  intro status
  cases status with
  | unknown | noWallet | unregistered | registered => rfl

namespace Service

/-- A field that is always written is read back. -/
lemma faithful_required {β τ σ : Type} {name : String} {codec : Codec β} {rest : Shape τ σ}
    (hcodec : codec.Faithful) (hname : name ∉ rest.names) (hrest : rest.Faithful) :
    (Shape.cons (required name codec) rest).Faithful := by
  refine .cons hcodec ?_ hname hrest
  simp [required]

lemma NoData.faithful : NoData.codec.Faithful := by
  refine .imap (.record _ .nil) ?_
  intro d
  rfl

/-! ### Logging in -/

lemma Challenge.faithful : Challenge.codec.Faithful := by
  refine .imap (.record _ ?_) ?_
  · apply faithful_required .string (by decide)
    exact faithful_required .string (by decide) .nil
  · intro c
    rfl

lemma LoginRequest.faithful : LoginRequest.codec.Faithful := by
  refine .imap (.record _ ?_) ?_
  · apply faithful_required .string (by decide)
    apply faithful_required .string (by decide)
    exact faithful_required .string (by decide) .nil
  · intro r
    rfl

lemma Grant.faithful : Grant.codec.Faithful := by
  refine .imap (.record _ ?_) ?_
  · exact faithful_required .string (by decide) .nil
  · intro g
    rfl

lemma NodeAddressRequest.faithful : NodeAddressRequest.codec.Faithful := by
  refine .imap (.record _ ?_) ?_
  · apply faithful_required .string (by decide)
    apply faithful_required .string (by decide)
    exact faithful_required .string (by decide) .nil
  · intro r
    rfl

/-! ### StakeWise -/

lemma Vault.faithful : Vault.codec.Faithful := by
  refine .imap (.record _ ?_) ?_
  · apply faithful_required .string (by decide)
    exact faithful_required (.fixedBytes 20) (by decide) .nil
  · intro v
    rfl

lemma Vaults.faithful : Vaults.codec.Faithful := by
  refine .imap (.record _ ?_) ?_
  · exact faithful_required Vault.faithful.list (by decide) .nil
  · intro v
    rfl

lemma VaultValidator.faithful : VaultValidator.codec.Faithful := by
  refine .imap (.record _ ?_) ?_
  · apply faithful_required .string (by decide)
    apply faithful_required .string (by decide)
    exact faithful_required .bool (by decide) .nil
  · intro v
    rfl

lemma VaultValidators.faithful : VaultValidators.codec.Faithful := by
  refine .imap (.record _ ?_) ?_
  · exact faithful_required VaultValidator.faithful.list (by decide) .nil
  · intro v
    rfl

lemma ValidatorCounts.faithful : ValidatorCounts.codec.Faithful := by
  refine .imap (.record _ ?_) ?_
  · apply faithful_required .uint32 (by decide)
    apply faithful_required .uint32 (by decide)
    exact faithful_required .uint32 (by decide) .nil
  · intro c
    rfl

lemma DepositData.faithful : DepositData.codec.Faithful := by
  refine .imap (.record _ ?_) ?_
  · apply faithful_required .string (by decide)
    apply faithful_required .string (by decide)
    apply faithful_required .uint64 (by decide)
    apply faithful_required .string (by decide)
    apply faithful_required .string (by decide)
    apply faithful_required .string (by decide)
    apply faithful_required .string (by decide)
    exact faithful_required .string (by decide) .nil
  · intro d
    rfl

lemma ValidatorRegistration.faithful : ValidatorRegistration.codec.Faithful := by
  refine .imap (.record _ ?_) ?_
  · apply faithful_required DepositData.faithful (by decide)
    exact faithful_required .string (by decide) .nil
  · intro r
    rfl

lemma ValidatorsRequest.faithful : ValidatorsRequest.codec.Faithful := by
  refine .imap (.record _ ?_) ?_
  · apply faithful_required ValidatorRegistration.faithful.list (by decide)
    exact faithful_required (.fixedBytes 32) (by decide) .nil
  · intro r
    rfl

lemma SignatureReply.faithful : SignatureReply.codec.Faithful := by
  refine .imap (.record _ ?_) ?_
  · exact faithful_required .string (by decide) .nil
  · intro s
    rfl

/-! ### Constellation -/

/-- The address is always written, though it may be missing where it is read. -/
lemma Whitelisting.faithful : Whitelisting.codec.Faithful := by
  refine .imap (.record _ ?_) ?_
  · apply faithful_required .bool (by decide)
    exact .cons (.fixedBytes 20) (by simp) (by decide) .nil
  · intro w
    rfl

lemma DepositSignatureRequest.faithful : DepositSignatureRequest.codec.Faithful := by
  refine .imap (.record _ ?_) ?_
  · apply faithful_required (.fixedBytes 20) (by decide)
    exact faithful_required .salt (by decide) .nil
  · intro r
    rfl

lemma MinipoolValidator.faithful : MinipoolValidator.codec.Faithful := by
  refine .imap (.record _ ?_) ?_
  · apply faithful_required .string (by decide)
    exact faithful_required .bool (by decide) .nil
  · intro v
    rfl

lemma MinipoolValidators.faithful : MinipoolValidators.codec.Faithful := by
  refine .imap (.record _ ?_) ?_
  · exact faithful_required MinipoolValidator.faithful.list (by decide) .nil
  · intro v
    rfl

lemma ExitMessage.faithful : ExitMessage.codec.Faithful := by
  refine .imap (.record _ ?_) ?_
  · apply faithful_required .string (by decide)
    exact faithful_required .string (by decide) .nil
  · intro m
    rfl

lemma ExitMessagesRequest.faithful : ExitMessagesRequest.codec.Faithful := by
  refine .imap (.record _ ?_) ?_
  · exact faithful_required ExitMessage.faithful.list (by decide) .nil
  · intro r
    rfl

/-! ### Envelopes -/

/-- An envelope is read back with its data, or with none. Data that is written as null would be lost. -/
lemma Envelope.faithful {α : Type} {data : Codec α} (h : data.Faithful) (hnull : data.NeverNull) :
    (Envelope.codec data).Faithful := by
  refine .imap (.record _ ?_) ?_
  · refine .cons .bool (by simp) (by simp [Shape.names]) ?_
    refine .cons .string (by simp) (by simp [Shape.names]) ?_
    refine .cons .string ?_ (by simp [Shape.names]) ?_
    · intro key hkey
      obtain rfl : key = "" := by simpa using hkey
      rfl
    · exact .cons (h.option hnull) (by simp) (by simp [Shape.names]) .nil
  · intro e
    rfl

/-! ### All that is sent -/

/-- The kinds of data on the wire. -/
inductive Datum where
  /-- No data at all. -/
  | none
  /-- A challenge. -/
  | challenge
  /-- The answer to a challenge. -/
  | login
  /-- The token of a session. -/
  | grant
  /-- The wish to register the node. -/
  | nodeAddress
  /-- A vault. -/
  | vault
  /-- The vaults of a deployment. -/
  | vaults
  /-- A validator of a vault. -/
  | vaultValidator
  /-- The validators of a vault. -/
  | vaultValidators
  /-- How many validators there are and may be. -/
  | counts
  /-- The deposit of a validator. -/
  | deposit
  /-- A deposit with the exit message. -/
  | validatorRegistration
  /-- The wish to register validators. -/
  | validators
  /-- A signature of the service. -/
  | signature
  /-- Whether an address is registered. -/
  | whitelisting
  /-- The wish for a deposit signature. -/
  | depositSignature
  /-- A validator of the node. -/
  | minipoolValidator
  /-- The validators of the node. -/
  | minipoolValidators
  /-- An exit message. -/
  | exitMessage
  /-- The exit messages to upload. -/
  | exitMessages
  /-- The registration status. -/
  | status
  deriving DecidableEq, Repr

namespace Datum

/-- The values of a kind. -/
def Value : Datum → Type
  | none => NoData
  | challenge => Challenge
  | login => LoginRequest
  | grant => Grant
  | nodeAddress => NodeAddressRequest
  | vault => Vault
  | vaults => Vaults
  | vaultValidator => VaultValidator
  | vaultValidators => VaultValidators
  | counts => ValidatorCounts
  | deposit => DepositData
  | validatorRegistration => ValidatorRegistration
  | validators => ValidatorsRequest
  | signature => SignatureReply
  | whitelisting => Whitelisting
  | depositSignature => DepositSignatureRequest
  | minipoolValidator => MinipoolValidator
  | minipoolValidators => MinipoolValidators
  | exitMessage => ExitMessage
  | exitMessages => ExitMessagesRequest
  | status => Status

/-- The JSON form of a kind. -/
def codec : (d : Datum) → Codec d.Value
  | none => NoData.codec
  | challenge => Challenge.codec
  | login => LoginRequest.codec
  | grant => Grant.codec
  | nodeAddress => NodeAddressRequest.codec
  | vault => Vault.codec
  | vaults => Vaults.codec
  | vaultValidator => VaultValidator.codec
  | vaultValidators => VaultValidators.codec
  | counts => ValidatorCounts.codec
  | deposit => DepositData.codec
  | validatorRegistration => ValidatorRegistration.codec
  | validators => ValidatorsRequest.codec
  | signature => SignatureReply.codec
  | whitelisting => Whitelisting.codec
  | depositSignature => DepositSignatureRequest.codec
  | minipoolValidator => MinipoolValidator.codec
  | minipoolValidators => MinipoolValidators.codec
  | exitMessage => ExitMessage.codec
  | exitMessages => ExitMessagesRequest.codec
  | status => Status.codec

lemma faithful (d : Datum) : d.codec.Faithful := by
  cases d with
  | none => exact NoData.faithful
  | challenge => exact Challenge.faithful
  | login => exact LoginRequest.faithful
  | grant => exact Grant.faithful
  | nodeAddress => exact NodeAddressRequest.faithful
  | vault => exact Vault.faithful
  | vaults => exact Vaults.faithful
  | vaultValidator => exact VaultValidator.faithful
  | vaultValidators => exact VaultValidators.faithful
  | counts => exact ValidatorCounts.faithful
  | deposit => exact DepositData.faithful
  | validatorRegistration => exact ValidatorRegistration.faithful
  | validators => exact ValidatorsRequest.faithful
  | signature => exact SignatureReply.faithful
  | whitelisting => exact Whitelisting.faithful
  | depositSignature => exact DepositSignatureRequest.faithful
  | minipoolValidator => exact MinipoolValidator.faithful
  | minipoolValidators => exact MinipoolValidators.faithful
  | exitMessage => exact ExitMessage.faithful
  | exitMessages => exact ExitMessagesRequest.faithful
  | status => exact Status.faithful

/-- Data is an object, or the name of a status. -/
lemma neverNull (d : Datum) : d.codec.NeverNull := by
  intro a
  cases d <;> rintro ⟨⟩

end Datum

/-- What goes over the wire: data by itself, or an envelope around it. -/
inductive WireType where
  /-- Data by itself. -/
  | bare (d : Datum)
  /-- An envelope, with or without the data. -/
  | envelope (d : Datum)
  deriving DecidableEq, Repr

namespace WireType

/-- The values of a type. -/
def Value : WireType → Type
  | bare d => d.Value
  | envelope d => Envelope d.Value

/-- The JSON form of a type. -/
def codec : (t : WireType) → Codec t.Value
  | bare d => d.codec
  | envelope d => Envelope.codec d.codec

lemma faithful (t : WireType) : t.codec.Faithful := by
  cases t with
  | bare d => exact d.faithful
  | envelope d => exact Envelope.faithful d.faithful d.neverNull

/-- Every value that goes over the wire is read back from the text it is written as, so that writing once
more what was read changes nothing. -/
theorem reads_what_it_writes (t : WireType) :
    (∀ a : t.Value, t.codec.readBytes (Utf8.bytes (t.codec.encode a).text) = .ok a) ∧
      ∀ bs, (t.codec.normalize bs).bind t.codec.normalize = t.codec.normalize bs := by
  constructor
  · intro a
    exact t.faithful.readBytes_text_encode a
  · intro bs
    exact t.faithful.normalize_normalize bs

end WireType

end Service

end OperatorDaemon
