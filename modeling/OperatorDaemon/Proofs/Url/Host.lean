import Mathlib.Data.Nat.Digits.Defs
import OperatorDaemon.Proofs.Text.Numeral
import OperatorDaemon.Proofs.Text.Percent
import OperatorDaemon.Proofs.Url.Domain
import OperatorDaemon.Url.Host

/-!
# The texts of hosts

The text of a host that has been read is read as a host again, be it a name, an IPv4 address or an IPv6 address.
-/

namespace OperatorDaemon.Url

/-! ### Names -/

/-- A name is its own ASCII form, and an address if it ends in a number. -/
structure IsDomain (name : List Char) : Prop where
  ascii : Domain.ascii? name = some name
  ne_nil : name ≠ []
  address : endsInNumber name → ∃ host, readIpv4 name = .ok host

lemma IsDomain.not_isForbidden {name : List Char} (h : IsDomain name) :
    ∀ c ∈ name, c.toNat < 0x80 ∧ Domain.isForbidden c = false :=
  Domain.forall_mem_of_ascii? h.ascii

/-- There is nothing to undo in an ASCII form. -/
lemma IsDomain.decode_eq {name : List Char} (h : IsDomain name) :
    Utf8.decode (Percent.decode (Utf8.encode name)) = .ok (String.ofList name) := by
  have hkept : ∀ c ∈ name, c.toNat < 0x80 ∧ decide (c = '%') = false := by
    intro c hc
    obtain ⟨hascii, hforbidden⟩ := h.not_isForbidden c hc
    refine ⟨hascii, decide_eq_false ?_⟩
    rintro rfl
    cases hforbidden
  have hencode : Percent.decode (Utf8.encode (Percent.encode (fun c => decide (c = '%')) name)) = Utf8.encode name :=
    Percent.decode_encode (by decide) name
  rw [Percent.encode_eq_self hkept] at hencode
  rw [hencode]
  simpa [Utf8.bytes] using Utf8.decode_bytes (String.ofList name)

lemma IsDomain.exists_read {name : List Char} (h : IsDomain name) : ∃ host, readSpecialHost name = .ok host := by
  unfold readSpecialHost
  split
  · have hbracket := (h.not_isForbidden '[' List.mem_cons_self).2
    cases hbracket
  · rw [h.decode_eq]
    simp only [String.toList_ofList, h.ascii]
    cases hname : name with
    | nil => exact absurd hname h.ne_nil
    | cons c cs =>
      dsimp only
      rw [← hname]
      split_ifs with hnumber
      · exact h.address hnumber
      · exact ⟨_, rfl⟩

/-! ### IPv4 addresses -/

/-- The numbers of an address. -/
def octets (a : Ipv4) : List Nat :=
  [a.value.toNat / 0x1000000, a.value.toNat / 0x10000 % 256, a.value.toNat / 256 % 256, a.value.toNat % 256]

lemma lt_of_mem_octets {a : Ipv4} {n : Nat} (h : n ∈ octets a) : n < 256 := by
  have hvalue : a.value.toNat < 0x100000000 := a.value.toNat_lt
  simp only [octets, List.mem_cons, List.not_mem_nil, or_false] at h
  omega

lemma toList_text_ipv4 (a : Ipv4) : a.text.toList = ['.'].intercalate ((octets a).map (Nat.toDigits 10)) := by
  rw [Ipv4.text, String.toList_intercalate]
  simp [octets]

lemma labelNumber?_toDigits : ∀ n < 256, labelNumber? (Nat.toDigits 10 n) = some n := by decide +kernel

lemma isPlain_digitChar : ∀ d < 10, (Nat.digitChar d).toNat < 0x80 ∧ asciiLower (Nat.digitChar d) = Nat.digitChar d ∧
    Nat.digitChar d ≠ '.' ∧ Domain.isForbidden (Nat.digitChar d) = false ∧ Nat.digitChar d ≠ 'x' := by decide

/-- A decimal number is a plain label, its own ASCII form, and what it stands for. -/
lemma isPlain_toDigits (n : Nat) : (∀ c ∈ Nat.toDigits 10 n, Domain.IsPlain c) ∧
    Domain.asciiLabel? (Nat.toDigits 10 n) = some (Nat.toDigits 10 n) ∧
    Domain.plainLabel (Nat.toDigits 10 n) = Nat.toDigits 10 n := by
  have hplain : ∀ c ∈ Nat.toDigits 10 n, Domain.IsPlain c ∧ c ≠ 'x' := by
    intro c hc
    obtain ⟨d, hd, rfl⟩ := exists_digitChar_of_mem_toDigits (by decide) hc
    obtain ⟨hascii, hlower, hdot, -, hx⟩ := isPlain_digitChar d hd
    exact ⟨⟨hascii, hlower, hdot⟩, hx⟩
  refine ⟨fun c hc => (hplain c hc).1, ?_⟩
  have hmark : Domain.mark.isPrefixOf (Nat.toDigits 10 n) = false := by
    rw [Bool.eq_false_iff]
    intro hmark
    obtain ⟨rest, hrest⟩ := List.isPrefixOf_iff_prefix.mp hmark
    exact (hplain 'x' (by simp [← hrest, Domain.mark])).2 rfl
  have hascii : (Nat.toDigits 10 n).all (·.toNat < 128) = true := by
    simpa using fun c hc => (hplain c hc).1.ascii
  simp only [Domain.asciiLabel?, Domain.plainLabel, hmark, Bool.false_eq_true, if_false, hascii, if_true, and_self]

lemma isDomain_text_ipv4 (a : Ipv4) : IsDomain a.text.toList := by
  have hoctet : ∀ n ∈ octets a, n < 256 := fun n => lt_of_mem_octets
  rw [toList_text_ipv4]
  generalize hparts : (octets a).map (Nat.toDigits 10) = parts
  have hpart : ∀ part ∈ parts, ∃ n ∈ octets a, part = Nat.toDigits 10 n := by
    rw [← hparts]
    intro part hpart
    obtain ⟨n, hn, rfl⟩ := List.mem_map.mp hpart
    exact ⟨n, hn, rfl⟩
  have hplain : ∀ part ∈ parts, (∀ c ∈ part, Domain.IsPlain c) ∧ Domain.asciiLabel? part = some part := by
    intro part hmem
    obtain ⟨n, -, rfl⟩ := hpart part hmem
    obtain ⟨hplain, hascii, -⟩ := isPlain_toDigits n
    exact ⟨hplain, hascii⟩
  have hne : parts ≠ [] := by
    rw [← hparts]
    exact List.cons_ne_nil _ _
  have hforbidden : ∀ c ∈ ['.'].intercalate parts, Domain.isForbidden c = false := by
    intro c hc
    obtain rfl | ⟨part, hmem, hc⟩ := Domain.mem_intercalate hc
    · rfl
    · obtain ⟨n, -, rfl⟩ := hpart part hmem
      obtain ⟨d, hd, rfl⟩ := exists_digitChar_of_mem_toDigits (by decide) hc
      exact (isPlain_digitChar d hd).2.2.2.1
  have hlabels : hostLabels (['.'].intercalate parts) = parts := by
    rw [hostLabels, Domain.labels_intercalate hne fun part hmem hdot => ((hplain part hmem).1 '.' hdot).ne_dot rfl]
    refine if_neg fun hlast => ?_
    obtain ⟨n, -, hn⟩ := hpart [] (List.mem_of_getLast? hlast)
    exact Nat.toDigits_ne_nil hn.symm
  have hnumbers : parts.mapM labelNumber? = some (octets a) := by
    rw [Domain.mapM_eq_some_iff, ← hparts, List.forall₂_map_left_iff, List.forall₂_same]
    exact fun n hn => labelNumber?_toDigits n (hoctet n hn)
  have hdirected : Domain.areDirected (parts.map Domain.plainLabel) = true := by
    refine Domain.areDirected_of_toNat_lt fun label hlabel c hc => ?_
    obtain ⟨part, hmem, rfl⟩ := List.mem_map.mp hlabel
    obtain ⟨n, -, rfl⟩ := hpart part hmem
    rw [(isPlain_toDigits n).2.2] at hc
    exact Nat.lt_trans ((isPlain_toDigits n).1 c hc).ascii (by decide)
  refine ⟨Domain.ascii?_intercalate hne hplain hforbidden hdirected, ?_, fun _ => ?_⟩
  · intro hnil
    have hlabels' := hlabels
    rw [hnil] at hlabels'
    exact hne hlabels'.symm
  · obtain ⟨ha, hb, hc, hd⟩ : a.value.toNat / 0x1000000 < 256 ∧ a.value.toNat / 0x10000 % 256 < 256 ∧
        a.value.toNat / 256 % 256 < 256 ∧ a.value.toNat % 256 < 256 := by simpa [octets] using hoctet
    obtain ⟨a', ha'⟩ : ∃ a', ipv4OfNumbers? (octets a) = some a' :=
      ⟨_, if_pos ⟨by simp [octets], by simp [octets, ha, hb, hc], by simpa [octets] using hd⟩⟩
    exact ⟨.ipv4 a', by simp only [readIpv4, hlabels, hnumbers, ha']⟩

/-! ### IPv6 addresses -/

/-- Characters are a group of an address: up to four hexadecimal digits. -/
structure IsGroup (ds : List Char) : Prop where
  ne_nil : ds ≠ []
  length_le : ds.length ≤ 4
  isSome : ∀ c ∈ ds, (hexValue? c).isSome

lemma isSome_hexValue?_digitChar : ∀ d < 16, (hexValue? (Nat.digitChar d)).isSome := by decide

lemma isGroup_toDigits (g : UInt16) : IsGroup (Nat.toDigits 16 g.toNat) where
  ne_nil := Nat.toDigits_ne_nil
  length_le := Nat.toDigits_length 16 g.toNat 4 (by decide) g.toNat_lt
  isSome c hc := by
    obtain ⟨d, hd, rfl⟩ := exists_digitChar_of_mem_toDigits (by decide) hc
    exact isSome_hexValue?_digitChar d hd

/-- A group is read up to its end. -/
lemma hexGroup_append {ds : List Char} (h : IsGroup ds) (rest : List Char)
    (hrest : ∀ c ∈ rest.head?, hexValue? c = none) : ∃ n, hexGroup (ds ++ rest) = (n, rest) := by
  have hend : (rest.take (4 - ds.length)).takeWhile (fun c => (hexValue? c).isSome) = [] := by
    cases rest with
    | nil => simp
    | cons c rest =>
      have hc : hexValue? c = none := hrest c rfl
      cases 4 - ds.length <;> simp [hc]
  have hdigits : ((ds ++ rest).take 4).takeWhile (fun c => (hexValue? c).isSome) = ds := by
    rw [List.take_append, List.take_of_length_le h.length_le, List.takeWhile_append_of_pos h.isSome, hend,
      List.append_nil]
  refine ⟨(ds.filterMap hexValue?).foldl (fun n d => n * 16 + d) 0, ?_⟩
  simp only [hexGroup, hdigits, List.drop_left]

section Groups

variable {fuel : Nat} {groups : List UInt16} {ds rest : List Char} (gap : Option Nat)

lemma IsGroup.exists_cons (h : IsGroup ds) : ∃ d ds', d ≠ ':' ∧ ds = d :: ds' := by
  obtain ⟨d, ds', rfl⟩ := List.exists_cons_of_ne_nil h.ne_nil
  refine ⟨d, ds', ?_, rfl⟩
  rintro rfl
  exact absurd (h.isSome ':' List.mem_cons_self) (by decide)

/-- The last group is read. -/
lemma readGroups_last (fuel : Nat) (h : IsGroup ds) (hroom : groups.length < 8) :
    ∃ g, readGroups (fuel + 1) (groups, gap) ds = some (g :: groups, gap) := by
  obtain ⟨n, hn⟩ := hexGroup_append h [] (by simp)
  obtain ⟨d, ds', hd, rfl⟩ := h.exists_cons
  rw [List.append_nil] at hn
  refine ⟨UInt16.ofNat n, ?_⟩
  simp [readGroups, hroom.ne, hd, hn]

/-- A group is read, and more comes behind a colon. -/
lemma readGroups_next (fuel : Nat) (h : IsGroup ds) (hroom : groups.length < 8) (c : Char) (rest : List Char) :
    ∃ g, readGroups (fuel + 1) (groups, gap) (ds ++ ':' :: c :: rest) =
      readGroups fuel (g :: groups, gap) (c :: rest) := by
  obtain ⟨n, hn⟩ := hexGroup_append h (':' :: c :: rest) (by simp; decide)
  obtain ⟨d, ds', hd, rfl⟩ := h.exists_cons
  refine ⟨UInt16.ofNat n, ?_⟩
  rw [List.cons_append] at hn ⊢
  simp [readGroups, hroom.ne, hd, hn]

lemma exists_cons_intercalate {parts : List (List Char)} (hne : parts ≠ []) (h : ∀ part ∈ parts, IsGroup part) :
    ∃ d rest, d ≠ ':' ∧ [':'].intercalate parts = d :: rest := by
  cases parts with
  | nil => contradiction
  | cons part parts =>
    obtain ⟨d, ds', hd, rfl⟩ := (h part List.mem_cons_self).exists_cons
    cases parts with
    | nil => exact ⟨d, ds', hd, List.intercalate_singleton⟩
    | cons part' parts => exact ⟨d, _, hd, by rw [List.intercalate_cons_cons, List.append_assoc, List.cons_append]⟩

/-- Groups between colons are read to the end. -/
lemma readGroups_intercalate {parts : List (List Char)} (hne : parts ≠ []) (h : ∀ part ∈ parts, IsGroup part)
    (hroom : groups.length + parts.length ≤ 8) (hfuel : ([':'].intercalate parts).length < fuel) :
    ∃ gs, gs.length = parts.length ∧
      readGroups fuel (groups, gap) ([':'].intercalate parts) = some (gs ++ groups, gap) := by
  induction parts generalizing fuel groups with
  | nil => contradiction
  | cons part parts ih =>
    obtain ⟨hpart, hparts⟩ := List.forall_mem_cons.mp h
    obtain ⟨fuel, rfl⟩ := Nat.exists_eq_add_of_le' (Nat.lt_of_le_of_lt (Nat.zero_le _) hfuel)
    rw [List.length_cons] at hroom
    have hlt : groups.length < 8 := by omega
    cases parts with
    | nil =>
      obtain ⟨g, hg⟩ := readGroups_last gap fuel hpart hlt
      exact ⟨[g], rfl, by rw [List.intercalate_singleton, hg]; rfl⟩
    | cons part' parts =>
      obtain ⟨d, rest, -, hrest⟩ := exists_cons_intercalate (List.cons_ne_nil _ _) hparts
      obtain ⟨g, hg⟩ := readGroups_next gap fuel hpart hlt d rest
      have hroom' : (g :: groups).length + (part' :: parts).length ≤ 8 := by
        rw [List.length_cons]
        omega
      have hfuel' : ([':'].intercalate (part' :: parts)).length < fuel := by
        rw [List.intercalate_cons_cons, List.length_append, List.length_append, List.length_singleton] at hfuel
        omega
      obtain ⟨gs, hlength, hgs⟩ := ih (List.cons_ne_nil _ _) hparts hroom' hfuel'
      refine ⟨gs ++ [g], by simp [hlength], ?_⟩
      rw [List.intercalate_cons_cons, List.append_assoc, hrest, List.singleton_append, hg, ← hrest, hgs,
        List.append_assoc, List.singleton_append]

/-- Groups between colons are read up to two colons. -/
lemma readGroups_gap {parts : List (List Char)} (hne : parts ≠ []) (h : ∀ part ∈ parts, IsGroup part)
    (hroom : groups.length + parts.length < 8)
    (hfuel : ([':'].intercalate parts ++ ':' :: ':' :: rest).length < fuel) :
    ∃ gs fuel', gs.length = groups.length + parts.length + 1 ∧ rest.length < fuel' ∧
      readGroups fuel (groups, none) ([':'].intercalate parts ++ ':' :: ':' :: rest) =
        readGroups fuel' (gs, some gs.length) rest := by
  induction parts generalizing fuel groups with
  | nil => contradiction
  | cons part parts ih =>
    obtain ⟨hpart, hparts⟩ := List.forall_mem_cons.mp h
    obtain ⟨fuel, rfl⟩ := Nat.exists_eq_add_of_le' (Nat.lt_of_le_of_lt (Nat.zero_le _) hfuel)
    rw [List.length_cons] at hroom
    have hlt : groups.length < 8 := by omega
    cases parts with
    | nil =>
      obtain ⟨g, hg⟩ := readGroups_next none fuel hpart hlt ':' rest
      rw [List.intercalate_singleton, List.length_append, List.length_cons, List.length_cons] at hfuel
      obtain ⟨fuel, rfl⟩ := Nat.exists_eq_add_of_le' (show 1 ≤ fuel by omega)
      refine ⟨0 :: g :: groups, fuel, by simp, by omega, ?_⟩
      rw [List.intercalate_singleton, hg]
      have hne : groups.length ≠ 7 := by
        rw [List.length_nil] at hroom
        omega
      simp [readGroups, hne]
    | cons part' parts =>
      obtain ⟨d, rest', -, hrest⟩ := exists_cons_intercalate (List.cons_ne_nil _ _) hparts
      obtain ⟨g, hg⟩ := readGroups_next none fuel hpart hlt d (rest' ++ ':' :: ':' :: rest)
      have hroom' : (g :: groups).length + (part' :: parts).length < 8 := by
        rw [List.length_cons]
        omega
      have hbehind : ([':'].intercalate (part' :: parts) ++ ':' :: ':' :: rest).length < fuel := by
        rw [List.intercalate_cons_cons, List.append_assoc, List.length_append, List.length_append,
          List.length_singleton] at hfuel
        omega
      obtain ⟨gs, fuel', hlength, hfuel', hgs⟩ := ih (List.cons_ne_nil _ _) hparts hroom' hbehind
      refine ⟨gs, fuel', by rw [hlength]; simp; omega, hfuel', ?_⟩
      rw [List.intercalate_cons_cons, List.append_assoc, List.append_assoc, hrest, List.singleton_append,
        List.cons_append, hg, ← hgs, hrest, List.cons_append]

/-- Any groups between colons may come at the end, also none. -/
lemma readGroups_end {parts : List (List Char)} (h : ∀ part ∈ parts, IsGroup part)
    (hroom : groups.length + parts.length ≤ 8) (hfuel : ([':'].intercalate parts).length < fuel) :
    ∃ gs, readGroups fuel (groups, gap) ([':'].intercalate parts) = some (gs, gap) := by
  by_cases hne : parts = []
  · obtain ⟨fuel, rfl⟩ := Nat.exists_eq_add_of_le' (Nat.lt_of_le_of_lt (Nat.zero_le _) hfuel)
    exact ⟨groups, by rw [hne]; rfl⟩
  · obtain ⟨gs, -, hgs⟩ := readGroups_intercalate gap hne h hroom hfuel
    exact ⟨_, hgs⟩

end Groups

/-- What does not begin with a colon is an address if its groups are. -/
lemma readIpv6_of_cons {d : Char} {cs : List Char} {found : Found} {a : Ipv6} (hd : d ≠ ':')
    (hread : readGroups ((d :: cs).length + 1) ([], none) (d :: cs) = some found) (ha : ipv6OfGroups? found = some a) :
    readIpv6 (d :: cs) = .ok (.ipv6 a) := by
  unfold readIpv6
  split
  · rename_i hcs
    exact absurd (List.cons_eq_cons.mp hcs).1 hd
  · rename_i hcs
    exact absurd (List.cons_eq_cons.mp hcs).1 hd
  · simp only [Option.bind_eq_bind, Option.bind_some, hread, ha]

/-- What begins with two colons is an address if its groups are. -/
lemma exists_readIpv6_of_colons {cs : List Char} {gs : List UInt16} {gap : Nat}
    (hread : readGroups (cs.length + 1) ([0], some 1) cs = some (gs, some gap)) :
    ∃ a, readIpv6 (':' :: ':' :: cs) = .ok (.ipv6 a) := by
  refine ⟨.ofGroups (gs.reverse.take gap ++ List.replicate (8 - gs.reverse.length) 0 ++ gs.reverse.drop gap), ?_⟩
  simp only [readIpv6, Option.bind_eq_bind, Option.bind_some, hread, ipv6OfGroups?]

/-- Eight groups are an address. -/
lemma exists_readIpv6_groups {parts : List (List Char)} (h : ∀ part ∈ parts, IsGroup part)
    (hlength : parts.length = 8) :
    ∃ a, readIpv6 ([':'].intercalate parts) = .ok (.ipv6 a) := by
  have hne : parts ≠ [] := List.ne_nil_of_length_pos (by omega)
  obtain ⟨d, rest, hd, hrest⟩ := exists_cons_intercalate hne h
  have hroom : ([] : List UInt16).length + parts.length ≤ 8 := by simp [hlength]
  obtain ⟨gs, hgs, hread⟩ := readGroups_intercalate none hne h hroom (Nat.lt_succ_self _)
  rw [hrest, List.append_nil] at hread
  rw [hrest]
  exact ⟨_, readIpv6_of_cons hd hread (if_pos (hgs.trans hlength))⟩

/-- Up to six groups are an address, with two colons anywhere. -/
lemma exists_readIpv6_gap {parts parts' : List (List Char)} (h : ∀ part ∈ parts, IsGroup part)
    (h' : ∀ part ∈ parts', IsGroup part) (hlength : parts.length + parts'.length ≤ 6) :
    ∃ a, readIpv6 ([':'].intercalate parts ++ ':' :: ':' :: [':'].intercalate parts') = .ok (.ipv6 a) := by
  by_cases hne : parts = []
  · have hroom : ([0] : List UInt16).length + parts'.length ≤ 8 := by
      rw [List.length_singleton]
      omega
    obtain ⟨gs, hread⟩ := readGroups_end (some 1) h' hroom (Nat.lt_succ_self _)
    rw [hne]
    exact exists_readIpv6_of_colons hread
  · obtain ⟨d, rest, hd, hrest⟩ := exists_cons_intercalate hne h
    have hroom : ([] : List UInt16).length + parts.length < 8 := by
      rw [List.length_nil]
      omega
    obtain ⟨gs, fuel, hgs, hfuel, hread⟩ := readGroups_gap hne h hroom (Nat.lt_succ_self _)
    have hroom' : gs.length + parts'.length ≤ 8 := by
      rw [hgs, List.length_nil]
      omega
    obtain ⟨gs', hread'⟩ := readGroups_end (some gs.length) h' hroom' hfuel
    rw [hread', hrest, List.cons_append] at hread
    rw [hrest, List.cons_append]
    exact ⟨_, readIpv6_of_cons hd hread rfl⟩

/-- The groups of an address as they are written. -/
def groupTexts (gs : List UInt16) : List (List Char) := gs.map fun g => Nat.toDigits 16 g.toNat

lemma isGroup_of_mem_groupTexts {gs : List UInt16} : ∀ part ∈ groupTexts gs, IsGroup part := by
  intro part hpart
  obtain ⟨g, -, rfl⟩ := List.mem_map.mp hpart
  exact isGroup_toDigits g

lemma toList_groupsText (gs : List UInt16) : (Ipv6.groupsText gs).toList = [':'].intercalate (groupTexts gs) := by
  rw [Ipv6.groupsText, String.toList_intercalate]
  simp [groupTexts, Function.comp_def]

/-- The longest run of zeros is within the groups. -/
lemma longestZeros_le (gs : List UInt16) :
    (Ipv6.longestZeros gs).1 + (Ipv6.longestZeros gs).2 ≤ gs.length := by
  have hzeros (start : Nat) (h : start < gs.length) : start + Ipv6.zeros gs start ≤ gs.length := by
    have hle : Ipv6.zeros gs start ≤ (gs.drop start).length := (List.takeWhile_sublist _).length_le
    rw [List.length_drop] at hle
    omega
  unfold Ipv6.longestZeros
  refine List.foldlRecOn (motive := fun best : Nat × Nat => best.1 + best.2 ≤ gs.length) _ _ (Nat.zero_le _) ?_
  intro best hbest start hstart
  split_ifs
  · exact hzeros start (List.mem_range.mp hstart)
  · exact hbest

lemma exists_readIpv6_hexText (a : Ipv6) : ∃ a', readIpv6 a.hexText.toList = .ok (.ipv6 a') := by
  have hle := longestZeros_le a.groups
  rw [a.length_groups] at hle
  unfold Ipv6.hexText
  dsimp only
  split_ifs with hcount
  · rw [toList_groupsText]
    exact exists_readIpv6_groups isGroup_of_mem_groupTexts (by simp [groupTexts, a.length_groups])
  · rw [String.toList_append, String.toList_append, toList_groupsText, toList_groupsText, List.append_assoc]
    refine exists_readIpv6_gap isGroup_of_mem_groupTexts isGroup_of_mem_groupTexts ?_
    simp only [groupTexts, List.length_map, List.length_take, List.length_drop, a.length_groups]
    omega

/-- An IPv6 address is written with hexadecimal digits and colons. -/
lemma mem_hexText {a : Ipv6} {c : Char} (h : c ∈ a.hexText.toList) : c = ':' ∨ ∃ d < 16, c = Nat.digitChar d := by
  have hgroups {gs : List UInt16} (h : c ∈ (Ipv6.groupsText gs).toList) :
      c = ':' ∨ ∃ d < 16, c = Nat.digitChar d := by
    rw [toList_groupsText] at h
    obtain hc | ⟨part, hpart, hc⟩ := Domain.mem_intercalate h
    · exact .inl hc
    · obtain ⟨g, -, rfl⟩ := List.mem_map.mp hpart
      exact .inr (exists_digitChar_of_mem_toDigits (by decide) hc)
  unfold Ipv6.hexText at h
  dsimp only at h
  split_ifs at h
  · exact hgroups h
  · rw [String.toList_append, String.toList_append, List.mem_append, List.mem_append] at h
    obtain (h | h) | h := h
    · exact hgroups h
    · exact .inl (by simpa using h)
    · exact hgroups h

/-! ### All hosts -/

/-- A text is read as a host: a name, or what stands in brackets. -/
inductive IsHostText : List Char → Prop where
  | domain {name : List Char} (h : IsDomain name) : IsHostText name
  | bracketed (a : Ipv6) : IsHostText ('[' :: a.hexText.toList ++ [']'])

lemma IsHostText.exists_read {text : List Char} (h : IsHostText text) : ∃ host, readSpecialHost text = .ok host := by
  cases h with
  | domain h => exact h.exists_read
  | bracketed a =>
    obtain ⟨a', ha'⟩ := exists_readIpv6_hexText a
    exact ⟨.ipv6 a', by simpa [readSpecialHost, readBracketed] using ha'⟩

lemma readIpv4_eq_ok {cs : List Char} {host : Host} (h : readIpv4 cs = .ok host) : ∃ a, host = .ipv4 a := by
  unfold readIpv4 at h
  split at h
  · cases h
  · split at h
    · cases h
    · cases h
      exact ⟨_, rfl⟩

lemma readBracketed_eq_ok {cs : List Char} {host : Host} (h : readBracketed cs = .ok host) : ∃ a, host = .ipv6 a := by
  unfold readBracketed at h
  split at h
  · unfold readIpv6 at h
    dsimp only at h
    split at h
    · cases h
    · cases h
      exact ⟨_, rfl⟩
  · cases h

/-- The text of a host that has been read is read as a host. -/
theorem isHostText_of_readSpecialHost {cs : List Char} {host : Host} (h : readSpecialHost cs = .ok host) :
    IsHostText host.text.toList := by
  unfold readSpecialHost at h
  split at h
  · obtain ⟨a, rfl⟩ := readBracketed_eq_ok h
    have htext : (Host.ipv6 a).text.toList = '[' :: a.hexText.toList ++ [']'] := by simp [Host.text]
    rw [htext]
    exact .bracketed a
  · split at h
    · cases h
    · rename_i name hname
      split at h
      · cases h
      · cases h
      · rename_i ascii hne hascii
        split_ifs at h with hnumber
        · obtain ⟨a, rfl⟩ := readIpv4_eq_ok h
          exact .domain (isDomain_text_ipv4 a)
        · cases h
          rw [Host.text, String.toList_ofList]
          exact .domain ⟨Domain.ascii?_of_eq_some hascii, fun hnil => hne (hnil ▸ rfl), fun h => absurd h hnumber⟩

end OperatorDaemon.Url
