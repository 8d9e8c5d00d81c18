import OperatorDaemon.Email
import OperatorDaemon.Proofs.Api.Registration
import OperatorDaemon.Proofs.Service.Wire
import OperatorDaemon.Proofs.Unicode.Lowercase

/-!
# Normal forms of email addresses

The common form of an email address is lower case and has a single at sign, but it need not be in the form NFKC,
since a small letter may compose with a mark that the capital does not compose with. The common form of a common
form is in normal form, and nothing changes it any more.
-/

namespace OperatorDaemon.Email

open Service (NodeAddressRequest)
open Unicode

/-! ### Addresses -/

/-- A character may stand on either side of the at sign. -/
def IsPart (c : Char) : Prop := c ≠ '@' ∧ isBlank c = false

/-- Characters are an address: there is a single at sign, something on either side of it, and no blank. -/
def IsAddress (cs : List Char) : Prop :=
  ∃ user domain, user ≠ [] ∧ domain ≠ [] ∧ (∀ c ∈ user ++ domain, IsPart c) ∧ cs = user ++ '@' :: domain

/-- Every character of an address is the at sign or stands on one side of it. -/
lemma mem_sides {user domain : List Char} {c : Char} :
    c ∈ user ++ '@' :: domain ↔ c = '@' ∨ c ∈ user ++ domain :=
  List.perm_middle.mem_iff.trans List.mem_cons

lemma isAddress_of_isWellFormed {cs : List Char} (h : isWellFormed cs) : IsAddress cs := by
  simp only [isWellFormed, Bool.and_eq_true, Bool.not_eq_true', List.isEmpty_eq_false_iff,
    List.any_eq_false, List.contains_eq_mem, decide_eq_false_iff_not] at h
  obtain ⟨⟨⟨huser, hdomain⟩, hat⟩, hblank⟩ := h
  have hsplit := List.takeWhile_append_dropWhile (p := (· != '@')) (l := cs)
  cases hdrop : cs.dropWhile (· != '@') with
  | nil =>
    rw [hdrop] at hdomain
    exact absurd rfl hdomain
  | cons c domain =>
    have hc : c = '@' := by
      have hhead := List.head?_dropWhile_not (· != '@') cs
      rw [hdrop] at hhead
      simpa using hhead
    subst hc
    rw [hdrop] at hsplit hdomain hat
    refine ⟨_, domain, huser, hdomain, fun d hd => ⟨?_, ?_⟩, hsplit.symm⟩
    · rintro rfl
      obtain hd | hd := List.mem_append.mp hd
      · exact absurd (List.mem_takeWhile_imp hd) (by decide)
      · exact hat hd
    · have hmem : d ∈ cs := hsplit ▸ mem_sides.mpr (.inr hd)
      simpa using hblank d hmem

lemma IsAddress.not_isBlank {cs : List Char} (h : IsAddress cs) : ∀ c ∈ cs, isBlank c = false := by
  obtain ⟨user, domain, -, -, hparts, rfl⟩ := h
  intro c hc
  obtain rfl | hc := mem_sides.mp hc
  · rfl
  · exact (hparts c hc).2

lemma IsAddress.isWellFormed {cs : List Char} (h : IsAddress cs) : isWellFormed cs := by
  have hblank : cs.any isBlank = false := List.any_eq_false.mpr fun c hc => by simp [h.not_isBlank c hc]
  obtain ⟨user, domain, huser, hdomain, hparts, rfl⟩ := h
  obtain ⟨huser', hdomain'⟩ := List.forall_mem_append.mp hparts
  have hne : ∀ c ∈ user, (c != '@') = true := fun c hc => bne_iff_ne.mpr (huser' c hc).1
  have htake : (user ++ '@' :: domain).takeWhile (· != '@') = user := by
    rw [List.takeWhile_append_of_pos hne]
    simp
  have hdrop : (user ++ '@' :: domain).dropWhile (· != '@') = '@' :: domain := by
    rw [List.dropWhile_append_of_pos hne]
    simp
  have hat : '@' ∉ domain := fun hmem => (hdomain' _ hmem).1 rfl
  simp [Email.isWellFormed, htake, hdrop, hblank, huser, hdomain, hat]

lemma isWellFormed_iff {cs : List Char} : isWellFormed cs ↔ IsAddress cs :=
  ⟨isAddress_of_isWellFormed, IsAddress.isWellFormed⟩

/-- An address is not trimmed any further. -/
lemma trimChars_of_isAddress {cs : List Char} (h : IsAddress cs) : trimChars cs = cs :=
  trimChars_eq_self h.not_isBlank

/-! ### Normalizing addresses -/

/-- The numbers of the at sign and of the blanks. -/
def separators : List Nat :=
  0x40 :: List.range' 9 5 ++ [0x20, 0x85, 0xA0, 0x1680] ++ List.range' 0x2000 11 ++
    [0x2028, 0x2029, 0x202F, 0x205F, 0x3000]

/-- The at sign and the blanks as bits. -/
def separatorBits : Nat := bitsAt separators

/-- Everything but the at sign and the blanks may stand on either side of the at sign. -/
lemma isPart_of_testBit {c : Char} (h : separatorBits.testBit c.toNat = false) : IsPart c := by
  have hnot : c.toNat ∉ separators := by rwa [← testBit_bitsAt, Bool.not_eq_true]
  simp only [separators, List.cons_append, List.mem_cons, List.mem_append, List.mem_range'_1, List.not_mem_nil,
    not_or, or_false] at hnot
  refine ⟨?_, ?_⟩
  · rintro rfl
    exact hnot.1 rfl
  · simp only [isBlank, Bool.or_eq_false_iff, Bool.and_eq_false_iff, decide_eq_false_iff_not, beq_eq_false_iff_ne]
    omega

/-- Neither a small letter nor a part of one is the at sign or a blank, neither is Hangul, and nothing composes
with them or to them. -/
lemma separators_checked :
    smallBits &&& separatorBits = 0 ∧ partBits smallBits &&& separatorBits = 0 ∧
      hangulBits &&& separatorBits = 0 ∧
      ((proper (triples compositions)).all fun (a, b, t) => !separatorBits.testBit a &&
        !separatorBits.testBit b && !separatorBits.testBit (Char.ofNat t).toNat) = true := by
  decide +kernel

/-- Blanks and at signs do not compose, and nothing is composed to them. -/
lemma isPart_of_composePair {a b c : Char} (h : composePair a b = some c) : IsPart a ∧ IsPart b ∧ IsPart c := by
  obtain ⟨-, -, hhangul, hcompositions⟩ := separators_checked
  obtain ⟨n, hn, rfl⟩ | ⟨n, hmem, rfl⟩ := composePair_cases h
  · have hpart {c : Char} (h : hangulBits.testBit c.toNat) : IsPart c :=
      isPart_of_testBit (testBit_of_disjoint hhangul h)
    obtain ⟨ha, hb, hc⟩ := testBit_of_composeHangul hn
    exact ⟨hpart ha, hpart hb, hpart hc⟩
  · have hcheck := List.all_eq_true.mp hcompositions _ hmem
    simp only [Bool.and_eq_true, Bool.not_eq_true'] at hcheck
    exact ⟨isPart_of_testBit hcheck.1.1, isPart_of_testBit hcheck.1.2, isPart_of_testBit hcheck.2⟩

lemma isInert_at : IsInert '@' where
  isSimple := rfl
  class_eq := rfl
  first _ := Option.eq_none_iff_forall_ne_some.mpr fun _ h => (isPart_of_composePair h).1.1 rfl
  second _ := Option.eq_none_iff_forall_ne_some.mpr fun _ h => (isPart_of_composePair h).2.1.1 rfl

lemma isPart_of_mem_nfkcChars {cs : List Char} (h : ∀ c ∈ cs, ∀ d ∈ decompose c, IsPart d) :
    ∀ c ∈ nfkcChars cs, IsPart c :=
  forall_mem_nfkcChars (Q := IsPart) (fun _ h => h) (fun _ _ _ _ _ hpair => (isPart_of_composePair hpair).2.2) h

/-- The normal form of an address in the common form is an address. -/
lemma isAddress_nfkcChars {cs : List Char} (h : IsAddress (lowercaseChars (nfkcChars cs))) :
    IsAddress (nfkcChars (lowercaseChars (nfkcChars cs))) := by
  obtain ⟨user, domain, huser, hdomain, hparts, heq⟩ := h
  have hdecompose : ∀ c ∈ user ++ domain, ∀ d ∈ decompose c, IsPart d := by
    intro c hc d hd
    have hmem : c ∈ lowercaseChars (nfkcChars cs) := heq ▸ mem_sides.mpr (.inr hc)
    have hpair (s c t : Char) (h : composePair s c = some t) (_ : IsPart t) : IsPart s ∧ IsPart c :=
      ⟨(isPart_of_composePair h).1, (isPart_of_composePair h).2.1⟩
    have hzero : IsPart '\x00' := ⟨by decide, rfl⟩
    obtain ⟨hself, hsmall, -⟩ := separators_checked
    exact forall_mem_decompose_lowercaseChars (fun _ => isPart_of_testBit) hzero hself hsmall hpair hmem
      (hparts c hc) d hd
  obtain ⟨huser', hdomain'⟩ := List.forall_mem_append.mp hdecompose
  refine ⟨nfkcChars user, nfkcChars domain, nfkcChars_ne_nil huser, nfkcChars_ne_nil hdomain,
    List.forall_mem_append.mpr ⟨isPart_of_mem_nfkcChars huser', isPart_of_mem_nfkcChars hdomain'⟩, ?_⟩
  rw [heq, nfkcChars_append_inert isInert_at]

/-! ### Normal forms -/

/-- An email address is in normal form if it is in the form NFKC and lower case. -/
structure IsNormalForm (text : String) : Prop where
  normalized : Unicode.nfkc text = text
  lower : Unicode.lowercase text = text
  address : IsAddress text.toList

lemma normalize?_eq_some {text email : String} :
    normalize? text = some email ↔ normalForm text = email ∧ IsAddress email.toList := by
  unfold normalize?
  generalize normalForm text = form
  split_ifs with h
  · rw [isWellFormed_iff] at h
    rw [Option.some.injEq]
    exact ⟨fun heq => ⟨heq, heq ▸ h⟩, And.left⟩
  · rw [isWellFormed_iff] at h
    exact iff_of_false (by simp) fun ⟨heq, haddress⟩ => h (heq ▸ haddress)

/-- What is in normal form is its own common form. -/
lemma IsNormalForm.normalize?_eq {text : String} (h : IsNormalForm text) : normalize? text = some text := by
  have htrim : trim text = text := by
    rw [← String.toList_inj, toList_trim, trimChars_of_isAddress h.address]
  exact normalize?_eq_some.mpr ⟨by rw [normalForm, htrim, h.normalized, h.lower], h.address⟩

section

variable {text email : String}

lemma toList_of_normalize? (h : normalize? text = some email) :
    email.toList = lowercaseChars (nfkcChars (trimChars text.toList)) := by
  rw [← (normalize?_eq_some.mp h).1, normalForm, Unicode.toList_lowercase, Unicode.toList_nfkc, toList_trim]

lemma lowercase_of_normalize? (h : normalize? text = some email) : Unicode.lowercase email = email := by
  rw [← String.toList_inj, Unicode.toList_lowercase, toList_of_normalize? h, lowercaseChars_lowercaseChars]

/-- The form NFKC of a common form is in normal form. -/
lemma isNormalForm_nfkc (h : normalize? text = some email) : IsNormalForm (Unicode.nfkc email) where
  normalized := by
    rw [← String.toList_inj, Unicode.toList_nfkc, Unicode.toList_nfkc, nfkcChars_nfkcChars]
  lower := by
    rw [← String.toList_inj, Unicode.toList_lowercase, Unicode.toList_nfkc, toList_of_normalize? h,
      lowercaseChars_nfkcChars_lowercaseChars]
  address := by
    have haddress := (normalize?_eq_some.mp h).2
    rw [toList_of_normalize? h] at haddress
    rw [Unicode.toList_nfkc, toList_of_normalize? h]
    exact isAddress_nfkcChars haddress

/-- The common form of a common form is its form NFKC. -/
lemma normalize?_normalize? (h : normalize? text = some email) :
    normalize? email = some (Unicode.nfkc email) := by
  have hform := isNormalForm_nfkc h
  have htrim : trim email = email := by
    rw [← String.toList_inj, toList_trim, trimChars_of_isAddress (normalize?_eq_some.mp h).2]
  exact normalize?_eq_some.mpr ⟨by rw [normalForm, htrim, hform.lower], hform.address⟩

end

/-- What is its own common form is in normal form. -/
lemma normalize?_eq_self_iff {text : String} : normalize? text = some text ↔ IsNormalForm text := by
  refine ⟨fun h => ?_, IsNormalForm.normalize?_eq⟩
  have hsame : Unicode.nfkc text = text := by
    have htwice := normalize?_normalize? h
    rw [h] at htwice
    exact (Option.some.inj htwice).symm
  exact hsame ▸ isNormalForm_nfkc h

/-- Where lower case changes nothing, the common form is in the form NFKC. -/
lemma nfkc_of_lowercase_eq {text email : String} (h : normalize? text = some email)
    (hlower : Unicode.lowercase (Unicode.nfkc (trim text)) = Unicode.nfkc (trim text)) :
    Unicode.nfkc email = email := by
  have hemail : Unicode.nfkc (trim text) = email := hlower.symm.trans (normalize?_eq_some.mp h).1
  rw [← hemail, ← String.toList_inj, Unicode.toList_nfkc, Unicode.toList_nfkc, nfkcChars_nfkcChars]

/-- The common form of an email address is lower case and has a single at sign, something on either side of it, and
no blanks. It is in the form NFKC if lower case has changed nothing, and exactly if it is its own common form. In any
case its own common form is in normal form. The texts that are their own common forms are those in normal form, and
these are sent and signed as they are. -/
theorem normalForm_reached :
    (∀ text email, normalize? text = some email →
      Unicode.lowercase email = email ∧ IsAddress email.toList ∧
        (Unicode.lowercase (Unicode.nfkc (trim text)) = Unicode.nfkc (trim text) →
          Unicode.nfkc email = email) ∧
        (normalize? email = some email ↔ Unicode.nfkc email = email) ∧
        ∃ email', normalize? email = some email' ∧ IsNormalForm email') ∧
    (∀ text, normalize? text = some text ↔ IsNormalForm text) ∧
    ∀ text, IsNormalForm text → ∀ (key : PrivateKey) (context : Context) (w : World), w.wallet.key = some key →
      ∃ x events, (Act.register text context w).2.log =
          w.log ++ .called (.nodeAddress (.signed key text)) w.session.token x :: events ∧
        ∀ q, x.request = some q → ∃ body request, q.body = some body ∧
          NodeAddressRequest.codec.readBytes (Utf8.bytes body.text) = .ok request ∧ request.email = text ∧
          request.signature =
            Hex.encodePrefixed (key.sign (Utf8.bytes (Service.nodeAddressMessage text key.address))) := by
  refine ⟨fun text email h => ?_, fun text => normalize?_eq_self_iff, fun text h key context w hkey => ?_⟩
  · have htwice := normalize?_normalize? h
    refine ⟨lowercase_of_normalize? h, (normalize?_eq_some.mp h).2, nfkc_of_lowercase_eq h, ?_,
      _, htwice, isNormalForm_nfkc h⟩
    rw [htwice, Option.some.injEq]
  · have hregisters := (RegisterRule.of_registerKey rfl).registersBy
      (Law.holds_completing.obeys_registerKey key text context w)
    obtain ⟨events, hlog, -⟩ := hregisters.log
    rw [Act.register_of_loaded h.normalize?_eq hkey]
    exact ⟨_, events, hlog, fun q hq => ⟨_, _, Context.body_of_exchange hq,
      NodeAddressRequest.faithful.readBytes_text_encode _, rfl, rfl⟩⟩

/-- So it is not true that every common form is in the form NFKC and its own common form: a small letter may compose
with a mark that stays behind the capital. -/
theorem not_normalized_of_capital_with_mark :
    ¬ ∀ text email, normalize? text = some email →
      Unicode.nfkc email = email ∧ normalize? email = some email := by
  intro h
  have hemail : normalize? "H\u0331@nodeset.io" = some "h\u0331@nodeset.io" := by decide +kernel
  have hother : normalize? "h\u0331@nodeset.io" = some "\u1E96@nodeset.io" := by decide +kernel
  have hsame := (h _ _ hemail).2
  rw [hother] at hsame
  exact absurd hsame (by decide)

end OperatorDaemon.Email
