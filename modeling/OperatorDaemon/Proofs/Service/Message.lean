import OperatorDaemon.Proofs.Ethereum.Checksum
import OperatorDaemon.Proofs.Text.Utf8
import OperatorDaemon.Service.Message
import OperatorDaemon.Wallet.PrivateKey

/-!
# What a signature is about

The nonce and the email address in a message may be any text, line breaks and names of fields included. Still a
message says one thing only: it ends with an address, whose text has a fixed length, and its first letter says
what it is about. Different messages are different bytes when they are marked as personal ones and signed.
-/

namespace OperatorDaemon

/-! ### Messages -/

namespace Service

variable {text text' : String} {address address' : Address}

/-- The address at the end of a text can be told from what is in front of it. -/
lemma append_checksummed_inj :
    text ++ address.checksummed = text' ++ address'.checksummed ↔ text = text' ∧ address = address' := by
  refine ⟨fun h => ?_, fun ⟨htext, haddress⟩ => by rw [htext, haddress]⟩
  have hlist : text.toList ++ address.checksummed.toList =
      text'.toList ++ address'.checksummed.toList := by
    rw [← String.toList_append, h, String.toList_append]
  have hlength : address.checksummed.toList.length = address'.checksummed.toList.length := by
    rw [Address.length_checksummed, Address.length_checksummed]
  obtain ⟨hfront, haddress⟩ := List.append_inj' hlist hlength
  exact ⟨String.toList_injective hfront,
    Address.checksummed_injective (String.toList_injective haddress)⟩

lemma loginMessage_inj :
    loginMessage text address = loginMessage text' address' ↔ text = text' ∧ address = address' := by
  rw [loginMessage, loginMessage, append_checksummed_inj, String.append_left_inj, String.append_right_inj]

lemma nodeAddressMessage_inj :
    nodeAddressMessage text address = nodeAddressMessage text' address' ↔
      text = text' ∧ address = address' := by
  rw [nodeAddressMessage, nodeAddressMessage, append_checksummed_inj, String.append_left_inj,
    String.append_right_inj]

lemma head?_loginMessage (text : String) (address : Address) :
    (loginMessage text address).toList.head? = some 'n' := by
  simp [loginMessage]

lemma head?_nodeAddressMessage (text : String) (address : Address) :
    (nodeAddressMessage text address).toList.head? = some 'e' := by
  simp [nodeAddressMessage]

end Service

/-! ### Bytes that are signed -/

namespace PrivateKey

/-- What marks a message of some length as a personal one. -/
def personalMark (length : Nat) : List UInt8 :=
  Utf8.bytes s!"\x19Ethereum Signed Message:\n{length}"

lemma personalMessage_eq (message : List UInt8) :
    personalMessage message = personalMark message.length ++ message := rfl

lemma toNat_lt_of_mem_toDigits {n : Nat} {c : Char} (h : c ∈ Nat.toDigits 10 n) : c.toNat < 0x80 := by
  have hdigit := Nat.isDigit_of_mem_toDigits (by decide) (by decide) h
  simp only [Char.isDigit, Bool.and_eq_true, decide_eq_true_eq] at hdigit
  exact Nat.lt_of_le_of_lt (UInt32.le_iff_toNat_le.mp hdigit.2) (by decide)

lemma length_personalMark (length : Nat) :
    (personalMark length).length = 26 + (Nat.toDigits 10 length).length := by
  have hmark : personalMark length =
      Utf8.encode ("\x19Ethereum Signed Message:\n".toList ++ Nat.toDigits 10 length) := by
    simp [personalMark, Utf8.bytes, toString]
  have hword : "\x19Ethereum Signed Message:\n".toList.all (·.toNat < 0x80) := by decide
  have hascii : ∀ c ∈ "\x19Ethereum Signed Message:\n".toList ++ Nat.toDigits 10 length, c.toNat < 0x80 := by
    intro c hc
    rcases List.mem_append.mp hc with hc | hc
    · exact of_decide_eq_true (List.all_eq_true.mp hword c hc)
    · exact toNat_lt_of_mem_toDigits hc
  rw [hmark, Utf8.length_encode_of_ascii hascii, List.length_append]
  rfl

/-- The mark of a longer message is not shorter. -/
lemma length_personalMark_mono {m n : Nat} (h : m ≤ n) :
    (personalMark m).length ≤ (personalMark n).length := by
  have hbound := (Nat.length_toDigits_le_iff (b := 10) (n := n) (by decide)
    Nat.length_toDigits_pos).mp (Nat.le_refl _)
  rw [length_personalMark, length_personalMark]
  exact Nat.add_le_add_left ((Nat.length_toDigits_le_iff (by decide) Nat.length_toDigits_pos).mpr
    (Nat.lt_of_le_of_lt h hbound)) 26

/-- Different messages are marked as different personal ones: the length of the whole says where the mark
ends. -/
lemma personalMessage_injective : Function.Injective personalMessage := by
  intro message message' h
  rw [personalMessage_eq, personalMessage_eq] at h
  have hwhole := congrArg List.length h
  rw [List.length_append, List.length_append] at hwhole
  have hlength : message.length = message'.length := by
    rcases Nat.lt_trichotomy message.length message'.length with hlt | heq | hlt
    · have hmark := length_personalMark_mono (Nat.le_of_lt hlt)
      omega
    · exact heq
    · have hmark := length_personalMark_mono (Nat.le_of_lt hlt)
      omega
  exact List.append_inj_right' h hlength

end PrivateKey

/-- The bytes that are hashed when a text is signed. -/
def signedBytes (text : String) : List UInt8 :=
  PrivateKey.personalMessage (Utf8.bytes text)

/-- A message says one thing only, whatever text is put into it: an answer to a challenge tells the nonce and the
address, a registration tells the email address and the address, and no answer to a challenge is a registration.
Nor are different texts signed as the same bytes. -/
theorem messages_tell_apart (n n' e e' : String) (a a' : Address) :
    (Service.loginMessage n a = Service.loginMessage n' a' → n = n' ∧ a = a') ∧
      (Service.nodeAddressMessage e a = Service.nodeAddressMessage e' a' → e = e' ∧ a = a') ∧
      Service.loginMessage n a ≠ Service.nodeAddressMessage e a' ∧ Function.Injective signedBytes := by
  refine ⟨Service.loginMessage_inj.mp, Service.nodeAddressMessage_inj.mp, fun h => ?_,
    PrivateKey.personalMessage_injective.comp Utf8.bytes_injective⟩
  have hhead := Service.head?_loginMessage n a
  rw [h, Service.head?_nodeAddressMessage] at hhead
  exact absurd hhead (by decide)

/-- A nonce may look like the rest of a message, and still the message of a shorter nonce is another. -/
example : Service.loginMessage "n\naddress=0x00" Address.zero ≠ Service.loginMessage "n" Address.zero := by
  rw [Ne, Service.loginMessage_inj]
  decide

end OperatorDaemon
