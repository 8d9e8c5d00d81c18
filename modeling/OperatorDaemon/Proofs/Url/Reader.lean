import Mathlib.Data.List.DropRight
import OperatorDaemon.Proofs.Url.Host
import OperatorDaemon.Proofs.Url.Path

/-!
# Reading the text of a URL again

The text of a URL with a host is a URL again. Only the scheme and the authority matter for that: whatever the path is,
the authority ends where it begins.
-/

namespace OperatorDaemon.Url

variable {c : Char} {text rest : List Char} {scheme : String}

/-! ### Characters of authorities -/

/-- A character is neither blank nor the end of an authority. -/
structure IsInner (c : Char) : Prop where
  graphic : 0x20 < c.toNat
  inner : endsAuthority .network c = false

/-- What comes behind an authority. -/
def Ends (rest : List Char) : Prop := ∀ c ∈ rest.head?, endsAuthority .network c

lemma isInner_of_not_isForbidden (h : Domain.isForbidden c = false) :
    IsInner c ∧ c ≠ '@' ∧ c ≠ ':' ∧ c ≠ '[' := by
  have hne {d : Char} (hd : Domain.isForbidden d) : c ≠ d := by
    rintro rfl
    rw [hd] at h
    cases h
  refine ⟨⟨?_, ?_⟩, hne rfl, hne rfl, hne rfl⟩
  · simp only [Domain.isForbidden, Bool.or_eq_false_iff, decide_eq_false_iff_not, Nat.not_le] at h
    exact h.1.1
  · simp [endsAuthority, endsSegment, hne (d := '?') rfl, hne (d := '#') rfl, hne (d := '/') rfl, hne (d := '\\') rfl]

lemma isInner_digitChar : ∀ d < 16, (0x20 < (Nat.digitChar d).toNat ∧
    endsAuthority .network (Nat.digitChar d) = false) ∧ Nat.digitChar d ≠ '@' ∧ Nat.digitChar d ≠ ']' := by decide

lemma takeWhile_of_ends (h : ∀ c ∈ text, IsInner c) (hrest : Ends rest) :
    (text ++ rest).takeWhile (fun c => !endsAuthority .network c) = text := by
  have hend : rest.takeWhile (fun c => !endsAuthority .network c) = [] := by
    cases rest with
    | nil => rfl
    | cons c rest => simp [hrest c rfl]
  rw [List.takeWhile_append_of_pos (by simpa using fun c hc => (h c hc).inner), hend, List.append_nil]

/-! ### Hosts -/

namespace IsHostText

lemma ne_nil (h : IsHostText text) : text ≠ [] := by
  cases h with
  | domain h => exact h.ne_nil
  | bracketed a => exact List.cons_ne_nil _ _

lemma isInner (h : IsHostText text) : ∀ c ∈ text, IsInner c ∧ c ≠ '@' := by
  intro c hc
  cases h with
  | domain h =>
    obtain ⟨hinner, hat, -, -⟩ := isInner_of_not_isForbidden (h.not_isForbidden c hc).2
    exact ⟨hinner, hat⟩
  | bracketed a =>
    rw [List.mem_append, List.mem_cons, List.mem_singleton] at hc
    obtain (rfl | hc) | rfl := hc
    · exact ⟨⟨by decide, rfl⟩, by decide⟩
    · obtain rfl | ⟨d, hd, rfl⟩ := mem_hexText hc
      · exact ⟨⟨by decide, rfl⟩, by decide⟩
      · obtain ⟨⟨hgraphic, hinner⟩, hat, -⟩ := isInner_digitChar d hd
        exact ⟨⟨hgraphic, hinner⟩, hat⟩
    · exact ⟨⟨by decide, rfl⟩, by decide⟩

end IsHostText

lemma hostLength_append (h : ∀ c ∈ text, endsAuthority .network c = false ∧ c ≠ ':' ∧ c ≠ '[') :
    hostLength .network false (text ++ rest) = text.length + hostLength .network false rest := by
  induction text with
  | nil => simp
  | cons c text ih =>
    obtain ⟨⟨hinner, hcolon, hbracket⟩, htext⟩ := List.forall_mem_cons.mp h
    simp only [List.cons_append, hostLength, hinner, hcolon, hbracket, decide_false, Bool.false_and, Bool.or_false,
      Bool.false_eq_true, if_false, ih htext, List.length_cons]
    omega

/-- Everything up to the closing bracket belongs to a host in brackets. -/
lemma hostLength_brackets (h : ∀ c ∈ text, endsAuthority .network c = false ∧ c ≠ ']') :
    hostLength .network true (text ++ ']' :: rest) = text.length + 1 + hostLength .network false rest := by
  induction text with
  | nil => simp [hostLength, endsAuthority, endsSegment]; omega
  | cons c text ih =>
    obtain ⟨⟨hinner, hbracket⟩, htext⟩ := List.forall_mem_cons.mp h
    have hwithin : (decide (c = '[') || (true && c != ']')) = true := by simp [hbracket]
    simp only [List.cons_append, hostLength, hinner, hwithin, ih htext, Bool.not_true, Bool.and_false, Bool.or_false,
      Bool.false_eq_true, if_false, List.length_cons]
    omega

/-- A host ends where a colon or the end of the authority comes. -/
lemma hostLength_of_head? (hrest : ∀ c ∈ rest.head?, c = ':' ∨ endsAuthority .network c) :
    hostLength .network false rest = 0 := by
  cases rest with
  | nil => rfl
  | cons c rest =>
    obtain rfl | hc := hrest c rfl
    · rfl
    · simp [hostLength, hc]

namespace IsHostText

lemma hostLength_eq (h : IsHostText text) (hrest : ∀ c ∈ rest.head?, c = ':' ∨ endsAuthority .network c) :
    hostLength .network false (text ++ rest) = text.length := by
  cases h with
  | domain h =>
    rw [hostLength_append, hostLength_of_head? hrest, Nat.add_zero]
    intro c hc
    obtain ⟨hinner, -, hcolon, hbracket⟩ := isInner_of_not_isForbidden (h.not_isForbidden c hc).2
    exact ⟨hinner.inner, hcolon, hbracket⟩
  | bracketed a =>
    have hopen : ∀ cs, hostLength .network false ('[' :: cs) = hostLength .network true cs + 1 := fun _ => rfl
    rw [List.cons_append, List.cons_append, hopen, List.append_assoc, List.singleton_append, hostLength_brackets,
      hostLength_of_head? hrest, List.length_cons, List.length_append, List.length_singleton]
    intro c hc
    obtain rfl | ⟨d, hd, rfl⟩ := mem_hexText hc
    · exact ⟨rfl, by decide⟩
    · obtain ⟨⟨-, hinner⟩, -, hbracket⟩ := isInner_digitChar d hd
      exact ⟨hinner, hbracket⟩

lemma exists_readHost (h : IsHostText text) (hrest : ∀ c ∈ rest.head?, c = ':' ∨ endsAuthority .network c) :
    ∃ host, readHost .network (text ++ rest) = .ok (some host, rest) := by
  obtain ⟨host, hhost⟩ := h.exists_read
  refine ⟨host, ?_⟩
  simp only [readHost, h.hostLength_eq hrest, List.take_left, List.drop_left, if_true, List.isEmpty_iff, h.ne_nil,
    if_false, hhost]
  rfl

end IsHostText

/-! ### Ports and users -/

lemma toList_portText (a : Authority) :
    a.portText.toList = (a.port.map fun port => ':' :: Nat.toDigits 10 port).getD [] := by
  cases hport : a.port with
  | none => simp [Authority.portText, hport]
  | some port =>
    simp only [Authority.portText, hport, String.toList_append, Nat.toString_eq_ofList_toDigits, String.toList_ofList]
    rfl

lemma isInner_of_isAsciiDigit {n : Nat} (h : c ∈ Nat.toDigits 10 n) : IsInner c ∧ c ≠ '@' := by
  obtain ⟨d, hd, rfl⟩ := exists_digitChar_of_mem_toDigits (by decide) h
  obtain ⟨⟨hgraphic, hinner⟩, hat, -⟩ := isInner_digitChar d (by omega)
  exact ⟨⟨hgraphic, hinner⟩, hat⟩

lemma isInner_portText (a : Authority) : ∀ c ∈ a.portText.toList, IsInner c ∧ c ≠ '@' := by
  intro c hc
  rw [toList_portText] at hc
  cases hport : a.port with
  | none =>
    rw [hport] at hc
    cases hc
  | some port =>
    rw [hport, Option.map_some, Option.getD_some, List.mem_cons] at hc
    obtain rfl | hc := hc
    · exact ⟨⟨by decide, rfl⟩, by decide⟩
    · exact isInner_of_isAsciiDigit hc

lemma not_isAsciiDigit_of_endsAuthority (h : endsAuthority .network c) : isAsciiDigit c = false := by
  simp only [endsAuthority, endsSegment, Bool.or_eq_true, Bool.and_eq_true, decide_eq_true_eq] at h
  obtain (rfl | rfl) | rfl | ⟨-, rfl⟩ := h <;> rfl

/-- A port that fits is read again. -/
lemma exists_readPort (scheme : String) {a : Authority} (hport : ∀ port ∈ a.port, port ≤ 65535) (hrest : Ends rest) :
    ∃ port, readPort scheme (a.portText.toList ++ rest) = .ok (port, rest) := by
  rw [toList_portText]
  cases hsome : a.port with
  | none =>
    refine ⟨none, ?_⟩
    rw [Option.map_none, Option.getD_none, List.nil_append]
    unfold readPort
    split
    · have hcolon := hrest ':' rfl
      cases hcolon
    · rfl
  | some port =>
    have hdigits : ∀ c ∈ Nat.toDigits 10 port, isAsciiDigit c = true := fun c => isAsciiDigit_of_mem_toDigits
    have hend : rest.takeWhile isAsciiDigit = [] ∧ rest.dropWhile isAsciiDigit = rest := by
      cases rest with
      | nil => exact ⟨rfl, rfl⟩
      | cons c rest => simp [not_isAsciiDigit_of_endsAuthority (hrest c rfl)]
    have hother : rest.head?.any (fun c => !endsAuthority .network c) = false := by
      cases rest with
      | nil => rfl
      | cons c rest => simp [hrest c rfl]
    rw [Option.map_some, Option.getD_some, List.cons_append]
    simp only [readPort, List.takeWhile_append_of_pos hdigits, List.dropWhile_append_of_pos hdigits, hend.1, hend.2,
      List.append_nil, Integer.parseDigits_toDigits (hport port hsome), hother, Bool.false_eq_true, if_false]
    split_ifs
    · exact ⟨_, rfl⟩
    · exact ⟨_, rfl⟩

lemma splitUserInfo_none (h : ∀ c ∈ text, IsInner c ∧ c ≠ '@') (hrest : Ends rest) :
    splitUserInfo .network (text ++ rest) = (none, text ++ rest) := by
  have hbehind : text.reverse.takeWhile (· != '@') = text.reverse :=
    List.takeWhile_eq_self_iff.mpr (by simpa using fun c hc => (h c hc).2)
  simp only [splitUserInfo, takeWhile_of_ends (fun c hc => (h c hc).1) hrest, hbehind, List.length_reverse, if_true]

/-- User information ends at the last at sign. -/
lemma splitUserInfo_some {info : List Char} (hinfo : ∀ c ∈ info, IsInner c) (h : ∀ c ∈ text, IsInner c ∧ c ≠ '@')
    (hrest : Ends rest) : splitUserInfo .network (info ++ '@' :: (text ++ rest)) = (some info, text ++ rest) := by
  have hat : IsInner '@' := ⟨by decide, rfl⟩
  have hauthority : (info ++ '@' :: (text ++ rest)).takeWhile (fun c => !endsAuthority .network c) =
      info ++ '@' :: text := by
    have hall : ∀ c ∈ info ++ '@' :: text, IsInner c := by
      rw [List.forall_mem_append, List.forall_mem_cons]
      exact ⟨hinfo, hat, fun c hc => (h c hc).1⟩
    have htake := takeWhile_of_ends hall hrest
    rwa [List.append_assoc, List.cons_append] at htake
  have hbehind : (info ++ '@' :: text).reverse.takeWhile (· != '@') = text.reverse := by
    rw [List.reverse_append, List.reverse_cons, List.append_assoc,
      List.takeWhile_append_of_pos (by simpa using fun c hc => (h c hc).2)]
    simp
  have hlength : text.length ≠ (info ++ '@' :: text).length := by simp; omega
  have hbefore : (info ++ '@' :: text).length - text.length - 1 = info.length := by simp; omega
  simp only [splitUserInfo, hauthority, hbehind, List.length_reverse, hlength, if_false, hbefore, List.take_left]
  rw [List.drop_append]
  simp

/-! ### Authorities -/

/-- An authority is one that has been read. -/
structure IsWritten (a : Authority) : Prop where
  user : ∀ c ∈ a.user.toList, IsInner c ∧ c ≠ '@'
  password : ∀ c ∈ a.password.toList, IsInner c ∧ c ≠ '@'
  host : ∃ host, a.host = some host ∧ IsHostText host.text.toList
  port : ∀ port ∈ a.port, port ≤ 65535

/-- Blanks, at signs and what would end an authority are escaped in user information. -/
lemma isInner_of_mem_encode {cs : List Char} (h : c ∈ Percent.encode Percent.inUserInfo cs) : IsInner c ∧ c ≠ '@' := by
  have hne {d : Char} (hd : Percent.inUserInfo d) (hpercent : d ≠ '%') (hdigit : ∀ n < 16, d ≠ hexDigitUpper n) :
      c ≠ d := by
    rintro rfl
    exact Percent.not_mem_encode hd hpercent hdigit cs h
  refine ⟨⟨?_, ?_⟩, hne rfl (by decide) (by decide)⟩
  · by_contra hblank
    have hsmall : ∀ n ≤ 0x20, Percent.inUserInfo (Char.ofNat n) ∧ Char.ofNat n ≠ '%' ∧
        ∀ k < 16, Char.ofNat n ≠ hexDigitUpper k := by decide
    obtain ⟨hescaped, hpercent, hdigit⟩ := hsmall c.toNat (Nat.not_lt.mp hblank)
    exact hne hescaped hpercent hdigit (Char.ofNat_toNat c).symm
  · simp [endsAuthority, endsSegment, hne (d := '?') rfl (by decide) (by decide),
      hne (d := '#') rfl (by decide) (by decide), hne (d := '/') rfl (by decide) (by decide),
      hne (d := '\\') rfl (by decide) (by decide)]

lemma isInner_of_readUserInfo {kind : SchemeKind} {info : Option (List Char)} {a : Authority}
    (h : readUserInfo kind info rest = .ok a) : (∀ c ∈ a.user.toList, IsInner c ∧ c ≠ '@') ∧
      ∀ c ∈ a.password.toList, IsInner c ∧ c ≠ '@' := by
  unfold readUserInfo at h
  split at h
  · cases h
    simp
  · split_ifs at h
    cases h
    simp
  · cases h
    simp only [String.toList_ofList]
    exact ⟨fun c => isInner_of_mem_encode, fun c => isInner_of_mem_encode⟩

lemma exists_of_readHost {cs : List Char} {host : Option Host} (h : readHost .network cs = .ok (host, rest)) :
    ∃ host', host = some host' ∧ IsHostText host'.text.toList := by
  simp only [readHost, if_true] at h
  split_ifs at h
  · cases h
  · obtain ⟨host', hhost', h⟩ := exists_of_bind_eq_ok h
    cases h
    exact ⟨host', rfl, isHostText_of_readSpecialHost hhost'⟩

lemma le_of_readPort {cs : List Char} {port : Option Nat} (h : readPort scheme cs = .ok (port, rest)) :
    ∀ n ∈ port, n ≤ 65535 := by
  unfold readPort at h
  split at h
  · dsimp only at h
    split at h
    · cases h
    · rename_i n hn
      split_ifs at h
      · cases h
        simp
      · cases h
        simpa using Integer.le_of_parseDigits (Nat.zero_le _) hn
  · cases h
    simp

lemma isWritten_of_readAuthority {cs : List Char} {a : Authority} (hkind : SchemeKind.ofScheme scheme = .network)
    (h : readAuthority scheme cs = .ok (a, rest)) : IsWritten a := by
  unfold readAuthority at h
  rw [hkind] at h
  obtain ⟨info, hinfo, h⟩ := exists_of_bind_eq_ok h
  obtain ⟨⟨host, rest₁⟩, hhost, h⟩ := exists_of_bind_eq_ok h
  obtain ⟨⟨port, rest₂⟩, hport, h⟩ := exists_of_bind_eq_ok h
  obtain ⟨host', rfl, htext⟩ := exists_of_readHost hhost
  cases h
  obtain ⟨huser, hpassword⟩ := isInner_of_readUserInfo hinfo
  exact ⟨huser, hpassword, ⟨host', rfl, htext⟩, le_of_readPort hport⟩

/-- An authority is read part by part. -/
lemma readAuthority_of_parts (hkind : SchemeKind.ofScheme scheme = .network) {cs behind behindHost : List Char}
    {info : Option (List Char)} {a : Authority} {host : Host} {port : Option Nat}
    (hinfo : splitUserInfo .network cs = (info, behind)) (huser : readUserInfo .network info behind = .ok a)
    (hhost : readHost .network behind = .ok (some host, behindHost))
    (hport : readPort scheme behindHost = .ok (port, rest)) :
    readAuthority scheme cs = .ok ({ a with host := some host, port }, rest) := by
  unfold readAuthority
  rw [hkind]
  dsimp only
  rw [hinfo]
  simp only [huser, hhost, hport, bind, Except.bind]
  rfl

namespace IsWritten

variable {a : Authority}

/-- There is no user information, or there is some and an at sign behind it. -/
lemma userInfoText_cases (h : IsWritten a) : a.userInfoText.toList = [] ∨
    ∃ info, info ≠ [] ∧ (∀ c ∈ info, IsInner c) ∧ a.userInfoText.toList = info ++ ['@'] := by
  have hcolon : IsInner ':' := ⟨by decide, rfl⟩
  have huser : ∀ c ∈ a.user.toList, IsInner c := fun c hc => (h.user c hc).1
  have hpassword : ∀ c ∈ a.password.toList, IsInner c := fun c hc => (h.password c hc).1
  unfold Authority.userInfoText
  split_ifs with hinfo hempty
  · refine .inr ⟨a.user.toList, ?_, huser, by simp⟩
    simpa [Authority.hasUserInfo, hempty] using hinfo
  · refine .inr ⟨a.user.toList ++ ':' :: a.password.toList, by simp, ?_, by simp⟩
    exact List.forall_mem_append.mpr ⟨huser, List.forall_mem_cons.mpr ⟨hcolon, hpassword⟩⟩
  · exact .inl rfl

/-- The text of an authority is the user information, if there is any, and a host and a port. -/
lemma exists_text (h : IsWritten a) : ∃ host, IsHostText host ∧
    (a.text.toList = host ++ a.portText.toList ∨ ∃ info, info ≠ [] ∧ (∀ c ∈ info, IsInner c) ∧
      a.text.toList = info ++ '@' :: (host ++ a.portText.toList)) := by
  obtain ⟨host, hhost, htext⟩ := h.host
  refine ⟨_, htext, ?_⟩
  simp only [Authority.text, hhost, Option.map_some, Option.getD_some, String.toList_append]
  refine h.userInfoText_cases.imp (fun hnone => ?_) ?_
  · rw [hnone, List.nil_append]
  · rintro ⟨info, hne, hinfo, hsome⟩
    refine ⟨info, hne, hinfo, ?_⟩
    rw [hsome, List.append_assoc, List.append_assoc, List.singleton_append]

lemma isInner (h : IsWritten a) : ∀ c ∈ a.text.toList, IsInner c := by
  obtain ⟨host, hhost, htext⟩ := h.exists_text
  have hbehind : ∀ c ∈ host ++ a.portText.toList, IsInner c :=
    List.forall_mem_append.mpr ⟨fun c hc => (hhost.isInner c hc).1, fun c hc => (isInner_portText a c hc).1⟩
  obtain htext | ⟨info, -, hinfo, htext⟩ := htext
  · rwa [htext]
  · rw [htext, List.forall_mem_append, List.forall_mem_cons]
    exact ⟨hinfo, ⟨by decide, rfl⟩, hbehind⟩

lemma text_ne_nil (h : IsWritten a) : a.text.toList ≠ [] := by
  obtain ⟨host, hhost, htext | ⟨info, hne, -, htext⟩⟩ := h.exists_text
  · simp [htext, hhost.ne_nil]
  · simp [htext, hne]

/-- The text of an authority is read again, up to its end. -/
theorem exists_readAuthority (h : IsWritten a) (hkind : SchemeKind.ofScheme scheme = .network) (hrest : Ends rest) :
    ∃ a', readAuthority scheme (a.text.toList ++ rest) = .ok (a', rest) := by
  obtain ⟨host, hhost, htext⟩ := h.exists_text
  have hbehind : ∀ c ∈ host ++ a.portText.toList, IsInner c ∧ c ≠ '@' :=
    List.forall_mem_append.mpr ⟨hhost.isInner, isInner_portText a⟩
  have hport : ∀ c ∈ (a.portText.toList ++ rest).head?, c = ':' ∨ endsAuthority .network c := by
    rw [toList_portText]
    cases a.port with
    | none => exact fun c hc => .inr (hrest c hc)
    | some port =>
      intro c hc
      cases hc
      exact .inl rfl
  obtain ⟨host', hreadHost⟩ := hhost.exists_readHost hport
  obtain ⟨port', hreadPort⟩ := exists_readPort scheme h.port hrest
  rw [← List.append_assoc] at hreadHost
  obtain htext | ⟨info, hne, hinfo, htext⟩ := htext
  · rw [htext]
    exact ⟨_, readAuthority_of_parts hkind (splitUserInfo_none hbehind hrest) rfl hreadHost hreadPort⟩
  · obtain ⟨c, cs, rfl⟩ := List.exists_cons_of_ne_nil hne
    have hassoc : (c :: cs ++ '@' :: (host ++ a.portText.toList)) ++ rest =
        c :: cs ++ '@' :: (host ++ a.portText.toList ++ rest) := List.append_assoc _ _ _
    rw [htext, hassoc]
    exact ⟨_, readAuthority_of_parts hkind (splitUserInfo_some hinfo hbehind hrest) rfl hreadHost hreadPort⟩

end IsWritten

/-! ### URLs -/

lemma rdropWhile_append {p : Char → Bool} {front : List Char} (h : ∀ c ∈ front, ¬ p c) (rest : List Char) :
    (front ++ rest).rdropWhile p = front ++ rest.rdropWhile p := by
  induction rest using List.reverseRecOn with
  | nil =>
    rw [List.append_nil, List.rdropWhile_nil, List.append_nil, List.rdropWhile_eq_self_iff]
    exact fun hne => h _ (List.getLast_mem hne)
  | append_singleton rest c ih =>
    rw [← List.append_assoc, List.rdropWhile_concat, List.rdropWhile_concat, ih]
    split_ifs <;> simp

/-- Blanks behind the characters that matter are dropped, and these are kept. -/
lemma exists_clean {front : List Char} (hne : front ≠ []) (hfront : ∀ c ∈ front, 0x20 < c.toNat) (hrest : Ends rest)
    {s : String} (hs : s.toList = front ++ rest) : ∃ rest', Ends rest' ∧ clean s = front ++ rest' := by
  let isMargin (c : Char) : Bool := c.toNat ≤ 0x20
  let isKept (c : Char) : Bool := c != '\t' && c != '\n' && c != '\r'
  have hmargin : ∀ c ∈ front, ¬ isMargin c := fun c hc => by simpa [isMargin] using hfront c hc
  have hkept : ∀ c ∈ front, isKept c := by
    intro c hc
    have hgraphic := hfront c hc
    simp only [isKept, Bool.and_eq_true, bne_iff_ne]
    refine ⟨⟨?_, ?_⟩, ?_⟩ <;> rintro rfl <;> exact absurd hgraphic (by decide)
  have hstart : (front ++ rest).dropWhile isMargin = front ++ rest := by
    obtain ⟨c, cs, rfl⟩ := List.exists_cons_of_ne_nil hne
    rw [List.cons_append, List.dropWhile_cons_of_neg (hmargin c List.mem_cons_self)]
  refine ⟨(rest.rdropWhile isMargin).filter isKept, fun c hc => ?_, ?_⟩
  · obtain ⟨more, hmore⟩ : rest.rdropWhile isMargin <+: rest := List.rdropWhile_prefix _ _
    cases hrdrop : rest.rdropWhile isMargin with
    | nil =>
      rw [hrdrop] at hc
      cases hc
    | cons d ds =>
      rw [hrdrop] at hc hmore
      have hd : endsAuthority .network d := hrest d (by rw [← hmore]; rfl)
      have hdkept : isKept d := by
        simp only [endsAuthority, endsSegment, Bool.or_eq_true, Bool.and_eq_true, decide_eq_true_eq] at hd
        obtain (rfl | rfl) | rfl | ⟨-, rfl⟩ := hd <;> rfl
      rw [List.filter_cons_of_pos hdkept] at hc
      cases hc
      exact hd
  · calc clean s = ((s.toList.dropWhile isMargin).rdropWhile isMargin).filter isKept := rfl
      _ = ((front ++ rest).rdropWhile isMargin).filter isKept := by rw [hs, hstart]
      _ = front ++ (rest.rdropWhile isMargin).filter isKept := by
        rw [rdropWhile_append hmargin, List.filter_append, List.filter_eq_self.mpr hkept]

lemma scheme_of_readFile {cs : List Char} {u : Url} (h : readFile scheme cs = .ok u) : u.scheme = scheme := by
  unfold readFile at h
  split at h
  · dsimp only at h
    split_ifs at h
    · obtain ⟨⟨host, rest⟩, -, h⟩ := exists_of_bind_eq_ok h
      rw [← Except.ok.inj h, finish]
    · rw [← Except.ok.inj h, finish]
  · rw [← Except.ok.inj h, finish]

/-- A URL that names a host has an authority and a path with segments. -/
lemma exists_of_parse {s : String} {u : Url} (h : parse s = .ok u) (hnetwork : u.kind = .network) :
    ∃ a segments, IsWritten a ∧ u.authority = some a ∧ u.path = .segments segments := by
  unfold parse at h
  split at h
  · cases h
  · split at h
    · rename_i hkind
      rw [kind, scheme_of_readFile h, hkind] at hnetwork
      cases hnetwork
    · rename_i hkind
      rw [kind, scheme_of_readOther h, hkind] at hnetwork
      cases hnetwork
    · rename_i hkind
      obtain ⟨⟨a, rest⟩, ha, h⟩ := exists_of_bind_eq_ok h
      rw [← Except.ok.inj h]
      exact ⟨a, _, isWritten_of_readAuthority hkind ha, rfl, rfl⟩

lemma Ends.append (h : Ends text) (hrest : Ends rest) : Ends (text ++ rest) := by
  cases text with
  | nil => exact hrest
  | cons c text => exact h

/-- Behind the authority come a slash, a question mark, a number sign or nothing. -/
lemma ends_path (segments : List String) (u : Url) :
    Ends ((Path.segments segments).text.toList ++ u.tailText.toList) := by
  refine .append ?_ ?_
  · rw [Path.toList_text]
    cases segments with
    | nil => intro c hc; cases hc
    | cons segment segments =>
      intro c hc
      cases hc
      rfl
  · unfold tailText
    rw [String.toList_append]
    refine .append ?_ ?_
    · cases u.query with
      | none => intro c hc; cases hc
      | some query =>
        intro c hc
        rw [Option.map_some, Option.getD_some, String.toList_append] at hc
        cases hc
        rfl
    · cases u.fragment with
      | none => intro c hc; cases hc
      | some fragment =>
        intro c hc
        rw [Option.map_some, Option.getD_some, String.toList_append] at hc
        cases hc
        rfl

/-- The text of a URL of the web is a URL with a path that can be extended. -/
theorem exists_parse_text {s : String} {u : Url} (h : parse s = .ok u)
    (hscheme : u.scheme = "http" ∨ u.scheme = "https") : ∃ u', parse u.text = .ok u' ∧ u'.canBeBase := by
  have hkind : SchemeKind.ofScheme u.scheme = .network := by obtain h | h := hscheme <;> rw [h] <;> decide
  obtain ⟨a, segments, ha, hauthority, hpath⟩ := exists_of_parse h hkind
  have htext : u.text.toList = (u.scheme.toList ++ ':' :: '/' :: '/' :: a.text.toList) ++
      ((Path.segments segments).text.toList ++ u.tailText.toList) := by
    simp only [text, authorityText, hauthority, hpath, String.toList_append]
    simp
  have hfront : ∀ c ∈ u.scheme.toList ++ ':' :: '/' :: '/' :: a.text.toList, 0x20 < c.toNat := by
    have hall : u.scheme.toList.all fun c => decide (0x20 < c.toNat) := by
      obtain h | h := hscheme <;> rw [h] <;> decide
    have hplain : ∀ c ∈ u.scheme.toList, 0x20 < c.toNat :=
      fun c hc => of_decide_eq_true (List.all_eq_true.mp hall c hc)
    simp only [List.forall_mem_append, List.forall_mem_cons]
    exact ⟨hplain, by decide, by decide, by decide, fun c hc => (ha.isInner c hc).graphic⟩
  obtain ⟨rest, hrest, hclean⟩ := exists_clean (by simp) hfront (ends_path segments u) htext
  obtain ⟨a', ha'⟩ := ha.exists_readAuthority hkind hrest
  have hscheme? : scheme? (clean u.text) = some (u.scheme, '/' :: '/' :: (a.text.toList ++ rest)) := by
    rw [hclean]
    obtain h | h := hscheme <;> rw [h] <;> rfl
  have hslashes : ('/' :: '/' :: (a.text.toList ++ rest)).dropWhile (endsSegment .network) = a.text.toList ++ rest := by
    obtain ⟨c, cs, hcs⟩ := List.exists_cons_of_ne_nil ha.text_ne_nil
    have hc : endsAuthority .network c = false := (ha.isInner c (by simp [hcs])).inner
    simp only [endsAuthority, Bool.or_eq_false_iff] at hc
    have hslash : ∀ cs, ('/' :: cs).dropWhile (endsSegment .network) = cs.dropWhile (endsSegment .network) :=
      fun _ => rfl
    rw [hslash, hslash, hcs, List.cons_append, List.dropWhile_cons_of_neg (by simp [hc.2])]
  unfold parse
  rw [hscheme?]
  dsimp only
  rw [hkind]
  dsimp only
  rw [hslashes, ha']
  exact ⟨_, rfl, rfl⟩

end OperatorDaemon.Url
