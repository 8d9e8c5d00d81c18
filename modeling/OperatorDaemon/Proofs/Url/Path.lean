import OperatorDaemon.Proofs.Result
import OperatorDaemon.Proofs.Text.Percent
import OperatorDaemon.Url.Reader

/-!
# Texts as segments of a path

A text that is put behind a path becomes one segment, from which it can be read back, if it is plain, and by
`IsPlainSegment.of_kept` only then. `extend_of_plain` says what a path consists of that has been extended by plain
texts, and `eq_of_text_extend_eq` that the text of the URL tells them.
-/

namespace OperatorDaemon.Url

/-! ### Plain texts -/

/-- A text is kept when it is put behind the path of a URL of some kind. -/
structure IsPlainSegment (kind : SchemeKind) (text : String) : Prop where
  /-- There are no tabs and line breaks in it, which would be dropped. -/
  unbroken : ∀ c ∈ text.toList, c ≠ '\t' ∧ c ≠ '\n' ∧ c ≠ '\r'
  /-- It is not one dot, which would be left out. -/
  not_dot : text ≠ "."
  /-- It is not two dots, which would be left out. -/
  not_dots : text ≠ ".."
  /-- In the URL of a file it is not a letter and a bar, which would become a drive. -/
  not_drive : kind = .file → ∀ letter, isAsciiLetter letter → text.toList ≠ [letter, '|']

/-- The characters of a text that are not dropped. -/
def keptChars (text : String) : List Char :=
  text.toList.filter fun c => c != '\t' && c != '\n' && c != '\r'

/-- What is escaped in a segment. -/
def escapedIn (kind : SchemeKind) : Char → Bool :=
  if kind.isSpecial then Percent.inSpecialSegment else Percent.inSegment

/-- The segment that a text becomes. -/
def segmentText (kind : SchemeKind) (text : String) : String :=
  String.ofList (encodeSegment kind text)

variable {kind : SchemeKind} {text : String}

lemma escapedIn_percent (kind : SchemeKind) : escapedIn kind '%' := by cases kind <;> rfl

lemma escapedIn_slash (kind : SchemeKind) : escapedIn kind '/' := by cases kind <;> rfl

lemma encodeSegment_eq (kind : SchemeKind) (text : String) :
    encodeSegment kind text = Percent.encode (escapedIn kind) (keptChars text) := rfl

lemma keptChars_eq_iff :
    keptChars text = text.toList ↔ ∀ c ∈ text.toList, c ≠ '\t' ∧ c ≠ '\n' ∧ c ≠ '\r' := by
  rw [keptChars, List.filter_eq_self]
  simp [and_assoc]

/-- A segment has no slash in it. -/
lemma slash_not_mem_segmentText (kind : SchemeKind) (text : String) : '/' ∉ (segmentText kind text).toList := by
  rw [segmentText, String.toList_ofList]
  exact Percent.not_mem_encode (escapedIn_slash kind) (by decide) (by decide) _

/-- What is not dropped is read back from a segment. -/
lemma decode_encodeSegment (kind : SchemeKind) (text : String) :
    Percent.decode (Utf8.encode (encodeSegment kind text)) = Utf8.encode (keptChars text) := by
  rw [encodeSegment_eq, Percent.decode_encode (escapedIn_percent kind)]

namespace IsPlainSegment

/-- A text of some length without blanks is plain. -/
lemma of_graphic (hgraphic : text.toList.all (' ' < ·)) (hlength : 2 < text.toList.length) :
    IsPlainSegment kind text where
  unbroken c hc := by
    have hc : ' ' < c := of_decide_eq_true (List.all_eq_true.mp hgraphic c hc)
    refine ⟨?_, ?_, ?_⟩ <;> rintro rfl <;> exact absurd hc (by decide)
  not_dot := by
    rintro rfl
    exact absurd hlength (by decide)
  not_dots := by
    rintro rfl
    exact absurd hlength (by decide)
  not_drive _ letter _ htext := by
    rw [htext] at hlength
    exact absurd hlength (by simp)

lemma keptChars_eq (h : IsPlainSegment kind text) : keptChars text = text.toList :=
  keptChars_eq_iff.mpr h.unbroken

/-- A plain text is read back from its segment. -/
lemma decode_eq (h : IsPlainSegment kind text) :
    Percent.decode (Utf8.encode (encodeSegment kind text)) = Utf8.bytes text := by
  rw [decode_encodeSegment, h.keptChars_eq, Utf8.bytes]

lemma decode_segmentText (h : IsPlainSegment kind text) :
    Percent.decode (Utf8.bytes (segmentText kind text)) = Utf8.bytes text := by
  rw [segmentText, Utf8.bytes, String.toList_ofList, h.decode_eq]

end IsPlainSegment

/-! ### Dots -/

/-- The characters from one to another are as many as there are numbers between theirs. -/
lemma exists_of_between {first last c : Char} {count : Nat} (hcount : last.toNat < first.toNat + count)
    (h : first ≤ c ∧ c ≤ last) : ∃ n < count, c = Char.ofNat (first.toNat + n) := by
  have hlow : first.toNat ≤ c.toNat := h.1
  have hhigh : c.toNat ≤ last.toNat := h.2
  refine ⟨c.toNat - first.toNat, by omega, ?_⟩
  rw [Nat.add_sub_cancel' hlow, Char.ofNat_toNat]

/-- What is made small is a small letter or is as it was. -/
lemma eq_of_asciiLower_eq {c d : Char} (hd : d.toNat < 'a'.toNat) (h : asciiLower c = d) : c = d := by
  have hsmall : ∀ n < 26, 'a'.toNat ≤ (Char.ofNat ((Char.ofNat ('A'.toNat + n)).toNat + 32)).toNat := by
    decide
  unfold asciiLower at h
  split_ifs at h with hcapital
  · obtain ⟨n, hn, rfl⟩ := exists_of_between (show 'Z'.toNat < 'A'.toNat + 26 by decide) hcapital
    exact absurd (h ▸ hsmall n hn) (Nat.not_le_of_lt hd)
  · exact h

lemma eq_or_of_asciiLower_eq {c : Char} (h : asciiLower c = 'e') : c = 'e' ∨ c = 'E' := by
  have hcapitals : ∀ n < 26, Char.ofNat ((Char.ofNat ('A'.toNat + n)).toNat + 32) = 'e' →
      Char.ofNat ('A'.toNat + n) = 'E' := by decide
  unfold asciiLower at h
  split_ifs at h with hcapital
  · obtain ⟨n, hn, rfl⟩ := exists_of_between (show 'Z'.toNat < 'A'.toNat + 26 by decide) hcapital
    exact .inr (hcapitals n hn h)
  · exact .inl h

/-- Whatever is spelled like one dot is read as one, whatever comes behind it. -/
lemma decode_of_isSingleDot {segment : List Char} (h : isSingleDot segment) (rest : List UInt8) :
    Percent.decode (Utf8.encode segment ++ rest) = 0x2E :: Percent.decode rest := by
  have hdot {c : Char} : asciiLower c = '.' → c = '.' := eq_of_asciiLower_eq (by decide)
  have hpercent {c : Char} : asciiLower c = '%' → c = '%' := eq_of_asciiLower_eq (by decide)
  have htwo {c : Char} : asciiLower c = '2' → c = '2' := eq_of_asciiLower_eq (by decide)
  simp only [isSingleDot, List.mem_cons, List.not_mem_nil, or_false, decide_eq_true_eq,
    List.map_eq_cons_iff, List.map_eq_nil_iff] at h
  rcases h with ⟨c, _, rfl, hc, rfl⟩ | ⟨c, _, rfl, hc, c', _, rfl, hc', c'', _, rfl, hc'', rfl⟩
  · rw [hdot hc]
    exact Percent.decode_cons (by decide) rest
  · obtain rfl | rfl := eq_or_of_asciiLower_eq hc'' <;> rw [hpercent hc, htwo hc'] <;> rfl

/-- What is spelled like two dots is spelled like one dot twice. -/
lemma exists_of_isDoubleDot {segment : List Char} (h : isDoubleDot segment) :
    ∃ first second, segment = first ++ second ∧ isSingleDot first ∧ isSingleDot second := by
  have hsplit (first second : List Char) (hfirst : first ∈ [['.'], ['%', '2', 'e']])
      (hsecond : second ∈ [['.'], ['%', '2', 'e']]) (h : segment.map asciiLower = first ++ second) :
      ∃ first second, segment = first ++ second ∧ isSingleDot first ∧ isSingleDot second := by
    obtain ⟨front, back, rfl, rfl, rfl⟩ := List.map_eq_append_iff.mp h
    exact ⟨front, back, rfl, decide_eq_true hfirst, decide_eq_true hsecond⟩
  simp only [isDoubleDot, decide_eq_true_eq, List.mem_cons, List.not_mem_nil, or_false] at h
  rcases h with h | h | h | h
  · exact hsplit ['.'] ['.'] (by decide) (by decide) h
  · exact hsplit ['.'] ['%', '2', 'e'] (by decide) (by decide) h
  · exact hsplit ['%', '2', 'e'] ['.'] (by decide) (by decide) h
  · exact hsplit ['%', '2', 'e'] ['%', '2', 'e'] (by decide) (by decide) h

/-- A text that is no dot does not become one, whatever escapes there are in it. -/
lemma IsPlainSegment.isSingleDot_encodeSegment (h : IsPlainSegment kind text) :
    isSingleDot (encodeSegment kind text) = false := by
  rw [← Bool.not_eq_true]
  intro hdot
  -- A segment that is spelled like a dot is read as one, but a plain text is read back.
  have hread := decode_of_isSingleDot hdot []
  rw [List.append_nil, h.decode_eq] at hread
  exact h.not_dot (Utf8.bytes_injective hread)

/-- A text that is not two dots does not become that, whatever escapes there are in it. -/
lemma IsPlainSegment.isDoubleDot_encodeSegment (h : IsPlainSegment kind text) :
    isDoubleDot (encodeSegment kind text) = false := by
  rw [← Bool.not_eq_true]
  intro hdots
  obtain ⟨first, second, hsegment, hfirst, hsecond⟩ := exists_of_isDoubleDot hdots
  have hread := decode_of_isSingleDot hfirst (Utf8.encode second ++ [])
  rw [decode_of_isSingleDot hsecond, ← List.append_assoc, ← Utf8.encode_append, ← hsegment,
    List.append_nil, h.decode_eq] at hread
  exact h.not_dots (Utf8.bytes_injective hread)

/-! ### Drives -/

lemma toNat_of_isAsciiLetter {c : Char} (h : isAsciiLetter c) : 'A'.toNat ≤ c.toNat ∧ c.toNat ≤ 'z'.toNat := by
  simp only [isAsciiLetter, Bool.or_eq_true, Bool.and_eq_true, decide_eq_true_eq] at h
  rcases h with ⟨hlow, hhigh⟩ | ⟨hlow, hhigh⟩
  · exact ⟨Nat.le_trans (by decide) (show 'a'.toNat ≤ c.toNat from hlow), hhigh⟩
  · exact ⟨hlow, Nat.le_trans (show c.toNat ≤ 'Z'.toNat from hhigh) (by decide)⟩

/-- A letter is read as it is. -/
lemma decode_letter {letter : Char} (h : isAsciiLetter letter) (rest : List Char) :
    Percent.decode (Utf8.encode (letter :: rest)) =
      Utf8.encodeChar letter ++ Percent.decode (Utf8.encode rest) := by
  obtain ⟨hlow, hhigh⟩ := toNat_of_isAsciiLetter h
  have hascii : letter.toNat < 0x80 := Nat.lt_of_le_of_lt hhigh (by decide)
  have hbyte : UInt8.ofNat letter.toNat ≠ 0x25 := by
    intro hpercent
    have hvalue := congrArg UInt8.toNat hpercent
    rw [UInt8.toNat_ofNat_of_lt' (show letter.toNat < 0x100 by omega)] at hvalue
    exact absurd (hvalue ▸ hlow) (by decide)
  rw [Utf8.encode_cons, Utf8.encodeChar_of_ascii hascii, List.singleton_append, Percent.decode_cons hbyte,
    List.singleton_append]

/-- A letter is not escaped. -/
lemma encodeChar_letter {letter : Char} (h : isAsciiLetter letter) :
    Percent.encodeChar (escapedIn .file) letter = [letter] := by
  have hsmall : ∀ n < 26, Percent.encodeChar (escapedIn .file) (Char.ofNat ('a'.toNat + n)) =
      [Char.ofNat ('a'.toNat + n)] := by decide
  have hcapital : ∀ n < 26, Percent.encodeChar (escapedIn .file) (Char.ofNat ('A'.toNat + n)) =
      [Char.ofNat ('A'.toNat + n)] := by decide
  simp only [isAsciiLetter, Bool.or_eq_true, Bool.and_eq_true, decide_eq_true_eq] at h
  rcases h with h | h
  · obtain ⟨n, hn, rfl⟩ := exists_of_between (show 'z'.toNat < 'a'.toNat + 26 by decide) h
    exact hsmall n hn
  · obtain ⟨n, hn, rfl⟩ := exists_of_between (show 'Z'.toNat < 'A'.toNat + 26 by decide) h
    exact hcapital n hn

namespace IsPlainSegment

/-- A plain text that becomes the letter of a drive has a colon already. -/
lemma eq_colon (h : IsPlainSegment .file text) {letter mark : Char}
    (hsegment : encodeSegment .file text = [letter, mark]) (hdrive : isDriveLetter [letter, mark]) :
    mark = ':' := by
  simp only [isDriveLetter, Bool.and_eq_true, Bool.or_eq_true, decide_eq_true_eq] at hdrive
  obtain ⟨hletter, hcolon | rfl⟩ := hdrive
  · exact hcolon
  · have hread := h.decode_eq
    rw [hsegment, decode_letter hletter] at hread
    have htext : String.ofList [letter, '|'] = text := by
      apply Utf8.bytes_injective
      rw [← hread, Utf8.bytes, String.toList_ofList]
      rfl
    exact absurd (by rw [← htext, String.toList_ofList]) (h.not_drive rfl letter hletter)

lemma letter_colon {letter : Char} (h : isAsciiLetter letter) :
    IsPlainSegment kind (String.ofList [letter, ':']) where
  unbroken c hc := by
    rw [String.toList_ofList, List.mem_cons, List.mem_singleton] at hc
    obtain rfl | rfl := hc
    · refine ⟨?_, ?_, ?_⟩ <;> rintro rfl <;> cases h
    · decide
  not_dot h := by simpa using congrArg String.toList h
  not_dots h := by simpa using congrArg String.toList h
  not_drive _ letter' _ := by simp

end IsPlainSegment

/-! ### Taking in a segment -/

/-- A segment is put behind the others as it is, unless it is made of dots or becomes the letter of a drive. In
front of the path of a file it has to be one of two characters. -/
lemma takeSegment_eq_cons (before : List (List Char)) {segment : List Char}
    (hdots : isDoubleDot segment = false) (hdot : isSingleDot segment = false)
    (hdrive : kind = .file → ∀ letter mark, segment = [letter, mark] → isDriveLetter segment → mark = ':')
    (hbefore : kind = .file → before = [] → segment.length = 2) :
    takeSegment kind before segment true = segment :: before := by
  unfold takeSegment
  simp only [hdots, hdot, Bool.false_eq_true, if_false]
  split_ifs with hkind
  · split
    · rename_i letter mark
      split_ifs with hletter
      · rw [hdrive hkind letter mark rfl hletter]
      · rfl
    · rename_i letter rest hpair
      have hlength := hbefore hkind rfl
      obtain rfl : rest = [] := by simpa using hlength
      exact (hpair rfl).elim
    · rfl
  · rfl

/-! ### Behind a path -/

/-- The segments that a text is put behind. A path with nothing but an empty segment counts as one without
any. -/
def stem (segments : List String) : List String :=
  if segments = [""] then [] else segments

lemma dropEmpty_append_singleton {segments : List (List Char)} (h : segments.head? ≠ some [])
    (segment : List Char) : dropEmpty (segments ++ [segment]) = segments ++ [segment] := by
  cases segments with
  | nil => cases segment <;> rfl
  | cons first rest =>
    cases first with
    | nil => exact absurd rfl h
    | cons c cs => rfl

lemma ordered_cons {segments : List String} (hfile : kind = .file → segments.head? ≠ some "")
    (segment : List Char) :
    ordered kind (segment :: segments.reverse.map String.toList) = segments ++ [String.ofList segment] := by
  have hreverse : (segment :: segments.reverse.map String.toList).reverse =
      segments.map String.toList ++ [segment] := by
    rw [List.reverse_cons, List.map_reverse, List.reverse_reverse]
  have hofList : (segments.map String.toList ++ [segment]).map String.ofList =
      segments ++ [String.ofList segment] := by
    simp [Function.comp_def]
  unfold ordered
  simp only [hreverse]
  split_ifs with hkind
  · rw [dropEmpty_append_singleton, hofList]
    cases segments with
    | nil => simp
    | cons first rest => simpa using hfile hkind
  · exact hofList

/-- A plain text that is put behind a path becomes its last segment. -/
lemma pushSegment_of_plain (h : IsPlainSegment kind text) (segments : List String)
    (hfile : kind = .file → (stem segments).head? ≠ some "")
    (hbefore : kind = .file → stem segments = [] → (encodeSegment kind text).length = 2) :
    pushSegment kind segments text = stem segments ++ [segmentText kind text] := by
  have hstem : (if segments = [""] then [] else segments.reverse.map String.toList) =
      (stem segments).reverse.map String.toList := by
    unfold stem
    split_ifs <;> rfl
  have hdrive (hkind : kind = .file) (letter mark : Char)
      (hsegment : encodeSegment kind text = [letter, mark])
      (hletter : isDriveLetter (encodeSegment kind text)) : mark = ':' := by
    subst hkind
    exact h.eq_colon hsegment (hsegment ▸ hletter)
  have htake := takeSegment_eq_cons ((stem segments).reverse.map String.toList)
    h.isDoubleDot_encodeSegment h.isSingleDot_encodeSegment hdrive fun hkind hnil =>
      hbefore hkind (by simpa using hnil)
  unfold pushSegment
  simp only [hstem, h.not_dot, h.not_dots, or_self, if_false, htake]
  exact ordered_cons hfile _

/-- Segments that plain texts can be put behind as they are. -/
structure IsGrown (kind : SchemeKind) (segments : List String) : Prop where
  stem_eq : stem segments = segments
  ne_nil : segments ≠ []
  head? : kind = .file → segments.head? ≠ some ""

lemma IsGrown.append {segments : List String} (h : IsGrown kind segments) (segment : String) :
    IsGrown kind (segments ++ [segment]) where
  stem_eq := if_neg fun hblank => h.ne_nil (by simpa using congrArg List.length hblank)
  ne_nil := by simp
  head? := by
    obtain ⟨first, rest, rfl⟩ := List.exists_cons_of_ne_nil h.ne_nil
    exact h.head?

/-- Plain texts that are put behind a path become its last segments. -/
lemma foldl_pushSegment {texts : List String} (htexts : ∀ text ∈ texts, IsPlainSegment kind text)
    {segments : List String} (h : IsGrown kind segments) :
    texts.foldl (pushSegment kind) segments = segments ++ texts.map (segmentText kind) := by
  induction texts generalizing segments with
  | nil => simp
  | cons text texts ih =>
    have hpush := pushSegment_of_plain (htexts text List.mem_cons_self) segments
      (by rw [h.stem_eq]; exact h.head?) (by rw [h.stem_eq]; exact fun _ hnil => absurd hnil h.ne_nil)
    rw [List.foldl_cons, hpush, h.stem_eq, ih (fun t ht => htexts t (List.mem_cons_of_mem _ ht)) (h.append _)]
    simp

/-- The segments of a path that others are put behind: all but an empty one at its end. Nothing is left of a
path of two slashes, which is cut down to a single one. -/
def front (segments : List String) : List String :=
  if segments = ["", ""] then []
  else if segments.getLast? = some "" then segments.dropLast
  else segments

lemma stem_dropEmptyEnd (segments : List String) : stem (dropEmptyEnd segments) = front segments := by
  by_cases hend : segments.getLast? = some ""
  · obtain ⟨rest, rfl⟩ := List.getLast?_eq_some_iff.mp hend
    cases rest with
    | nil => rfl
    | cons first rest =>
      have hblank : first :: rest ++ [""] = ["", ""] ↔ first :: rest = [""] := by
        change first :: rest ++ [""] = [""] ++ [""] ↔ first :: rest = [""]
        exact List.append_left_inj [""]
      have hlength : (first :: rest ++ [""]).length > 1 := by simp
      rw [dropEmptyEnd, if_pos ⟨hlength, hend⟩, List.dropLast_concat, stem, front]
      simp only [hblank, hend, if_true, List.dropLast_concat]
  · have hone : segments ≠ [""] := fun h => hend (h ▸ rfl)
    have htwo : segments ≠ ["", ""] := fun h => hend (h ▸ rfl)
    rw [dropEmptyEnd, if_neg fun h => hend h.2, stem, if_neg hone, front, if_neg htwo, if_neg hend]

/-- Segments that a file has: an empty one stands in front only if it is alone. -/
def IsTidy (segments : List String) : Prop :=
  segments.head? = some "" → segments = [""]

lemma IsTidy.head?_front {segments : List String} (h : IsTidy segments) :
    (front segments).head? ≠ some "" := by
  intro hhead
  unfold front at hhead
  split_ifs at hhead with htwo hend
  · cases hhead
  · obtain ⟨rest, rfl⟩ := List.getLast?_eq_some_iff.mp hend
    rw [List.dropLast_concat] at hhead
    have hrest : rest ++ [""] = [] ++ [""] := h (by rw [List.head?_append, hhead, Option.some_or])
    rw [List.append_cancel_right hrest] at hhead
    cases hhead
  · rw [h hhead] at hend
    exact hend rfl

lemma segmentText_ne_empty (h : (encodeSegment kind text).length = 2) : segmentText kind text ≠ "" := by
  intro hempty
  rw [← String.toList_inj, segmentText, String.toList_ofList] at hempty
  rw [hempty] at h
  cases h

lemma isGrown_front {segments : List String} (htidy : kind = .file → IsTidy segments) {segment : String}
    (hsegment : segment ≠ "") : IsGrown kind (front segments ++ [segment]) where
  stem_eq := by
    apply if_neg
    cases front segments with
    | nil => simpa using hsegment
    | cons first rest => simp
  ne_nil := by simp
  head? hfile := by
    have hhead := (htidy hfile).head?_front
    cases hfront : front segments with
    | nil => simpa using hsegment
    | cons first rest => simpa [hfront] using hhead

/-- A plain text of two characters is put behind the path of a URL first. It cannot be taken apart even in the
URL of a file, and then there is something that further texts can be put behind. -/
lemma extend_cons {u : Url} {segments : List String} (hpath : u.path = .segments segments)
    (htidy : u.kind = .file → IsTidy segments) {first : String}
    (hfirst : (encodeSegment u.kind first).length = 2) (hplain : IsPlainSegment u.kind first)
    (texts : List String) :
    IsGrown u.kind (front segments ++ [segmentText u.kind first]) ∧
      u.extend (first :: texts) = { u with
        path := .segments
          (texts.foldl (pushSegment u.kind) (front segments ++ [segmentText u.kind first])) } := by
  have hpush := pushSegment_of_plain hplain (dropEmptyEnd segments)
    (by rw [stem_dropEmptyEnd]; exact fun hfile => (htidy hfile).head?_front) fun _ _ => hfirst
  rw [stem_dropEmptyEnd] at hpush
  refine ⟨isGrown_front htidy (segmentText_ne_empty hfirst), ?_⟩
  unfold extend
  rw [hpath]
  dsimp only
  rw [List.foldl_cons, hpush]

/-- Plain texts that are put behind the path of a URL become its last segments. -/
theorem extend_of_plain {u : Url} {segments : List String} (hpath : u.path = .segments segments)
    (htidy : u.kind = .file → IsTidy segments) {first : String} {texts : List String}
    (hfirst : (encodeSegment u.kind first).length = 2)
    (hplain : ∀ text ∈ first :: texts, IsPlainSegment u.kind text) :
    u.extend (first :: texts) =
      { u with path := .segments (front segments ++ (first :: texts).map (segmentText u.kind)) } := by
  rw [List.forall_mem_cons] at hplain
  obtain ⟨hgrown, hextend⟩ := extend_cons hpath htidy hfirst hplain.1 texts
  rw [hextend, foldl_pushSegment hplain.2 hgrown, List.map_cons, List.append_assoc, List.singleton_append]

/-! ### Texts that are not plain -/

lemma getLast?_dropEmpty (segments : List (List Char)) :
    (dropEmpty segments).getLast? = segments.getLast? := by
  fun_induction dropEmpty segments with
  | case1 segment rest ih => rw [ih, List.getLast?_cons_cons]
  | case2 => rfl

lemma getLast?_ordered (kind : SchemeKind) (last : List Char) (before : List (List Char)) :
    (ordered kind (last :: before)).getLast? = some (String.ofList last) := by
  unfold ordered
  split_ifs
  · rw [List.getLast?_map, getLast?_dropEmpty, List.reverse_cons, List.getLast?_concat, Option.map_some]
  · rw [List.getLast?_map, List.reverse_cons, List.getLast?_concat, Option.map_some]

/-- What a segment becomes that is taken in behind others. -/
inductive IsTakenAs (kind : SchemeKind) (segment : List Char) : List Char → Prop where
  /-- It is made of dots, and an empty segment comes in its place. -/
  | dots (h : segment ≠ []) : IsTakenAs kind segment []
  /-- It is the letter of a drive. -/
  | drive (letter mark : Char) (hkind : kind = .file) (hletter : isAsciiLetter letter)
      (h : segment = [letter, mark]) : IsTakenAs kind segment [letter, ':']
  /-- It is anything else. -/
  | same (h : kind = .file → isDriveLetter segment = false) : IsTakenAs kind segment segment

lemma exists_isTakenAs (kind : SchemeKind) {before : List (List Char)} (hbefore : before ≠ [])
    (segment : List Char) :
    ∃ last rest, takeSegment kind before segment true = last :: rest ∧ IsTakenAs kind segment last := by
  unfold takeSegment
  simp only [if_true]
  split_ifs with hdots hdot hkind
  · exact ⟨[], _, rfl, .dots (by rintro rfl; cases hdots)⟩
  · exact ⟨[], _, rfl, .dots (by rintro rfl; cases hdot)⟩
  · split
    · rename_i letter mark
      split_ifs with hdrive
      · have hletter : isAsciiLetter letter := by
          simp only [isDriveLetter, Bool.and_eq_true] at hdrive
          exact hdrive.1
        exact ⟨_, _, rfl, .drive letter mark hkind hletter rfl⟩
      · exact ⟨_, _, rfl, .same fun _ => by simpa using hdrive⟩
    · exact absurd rfl hbefore
    · refine ⟨_, _, rfl, .same fun _ => ?_⟩
      unfold isDriveLetter
      split
      · rename_i letter mark hpair _
        exact (hpair letter mark rfl).elim
      · rfl
  · exact ⟨_, _, rfl, .same fun h => absurd h hkind⟩

/-- A text that becomes the last segment of a path and is read back from it is plain. -/
theorem IsPlainSegment.of_kept {segments : List String} (h : IsGrown kind segments) {part : String}
    (hpush : pushSegment kind segments text = segments ++ [part])
    (hread : Percent.decode (Utf8.bytes part) = Utf8.bytes text) : IsPlainSegment kind text := by
  have hdots : ¬ (text = "." ∨ text = "..") := by
    intro hdots
    rw [pushSegment, if_pos hdots] at hpush
    simpa using congrArg List.length hpush
  have hbefore : (if segments = [""] then [] else segments.reverse.map String.toList) ≠ [] := by
    have hone : segments ≠ [""] := by
      rintro rfl
      exact absurd h.stem_eq (by decide)
    rw [if_neg hone]
    simpa using h.ne_nil
  obtain ⟨last, rest, htake, htaken⟩ := exists_isTakenAs kind hbefore (encodeSegment kind text)
  obtain rfl : String.ofList last = part := by
    have hend := congrArg List.getLast? hpush
    rw [pushSegment, if_neg hdots] at hend
    simp only [htake, getLast?_ordered, List.getLast?_concat] at hend
    exact Option.some.inj hend
  -- In each case the text is what the last segment is read as.
  rw [Utf8.bytes, String.toList_ofList] at hread
  cases htaken with
  | dots hne =>
    obtain rfl : "" = text := Utf8.bytes_injective hread
    exact absurd (by cases kind <;> rfl) hne
  | drive letter mark hkind hletter hsegment =>
    rw [decode_letter hletter] at hread
    obtain rfl : String.ofList [letter, ':'] = text := by
      apply Utf8.bytes_injective
      rw [← hread, Utf8.bytes, String.toList_ofList]
      rfl
    exact .letter_colon hletter
  | same hdrive =>
    have hkept : keptChars text = text.toList := by
      rw [decode_encodeSegment] at hread
      have htext : String.ofList (keptChars text) = text := by
        apply Utf8.bytes_injective
        rw [← hread, Utf8.bytes, String.toList_ofList]
      rw [← String.toList_ofList (l := keptChars text), htext]
    exact {
      unbroken := keptChars_eq_iff.mp hkept
      not_dot := fun h => hdots (.inl h)
      not_dots := fun h => hdots (.inr h)
      not_drive := by
        rintro rfl letter hletter htext
        have hsegment : encodeSegment .file text = [letter, '|'] := by
          rw [encodeSegment_eq, hkept, htext, Percent.encode, List.flatMap_cons, encodeChar_letter hletter]
          rfl
        simpa [hsegment, isDriveLetter, hletter] using hdrive rfl }

/-- A text that becomes the last segment of the path of a URL and is read back from it is plain. -/
lemma IsPlainSegment.of_extend {u : Url} {segments : List String} (hpath : u.path = .segments segments)
    (htidy : u.kind = .file → IsTidy segments) {first part : String}
    (hfirst : (encodeSegment u.kind first).length = 2) (hplain : IsPlainSegment u.kind first)
    (h : u.extend [first, text] =
      { u with path := .segments (front segments ++ [segmentText u.kind first, part]) })
    (hread : Percent.decode (Utf8.bytes part) = Utf8.bytes text) : IsPlainSegment u.kind text := by
  obtain ⟨hgrown, hextend⟩ := extend_cons hpath htidy hfirst hplain [text]
  rw [hextend] at h
  have hsegments := Path.segments.inj (congrArg Url.path h)
  rw [List.foldl_cons, List.foldl_nil] at hsegments
  exact .of_kept hgrown (by rw [hsegments, List.append_assoc, List.singleton_append]) hread

/-! ### Reading the path back from the text -/

/-- Characters without a mark are put in front of what comes up to the first one. -/
lemma splitAt_append {isMark : Char → Bool} {part : List Char} (h : ∀ c ∈ part, isMark c = false)
    {rest : List Char} {parts : List (List Char)} (hrest : splitAt isMark rest = [] :: parts) :
    splitAt isMark (part ++ rest) = part :: parts := by
  induction part with
  | nil => exact hrest
  | cons c part ih =>
    have hc : isMark c = false := h c List.mem_cons_self
    rw [List.cons_append, splitAt, ih fun d hd => h d (List.mem_cons_of_mem _ hd)]
    simp [hc]

lemma Path.toList_text (segments : List String) :
    (Path.text (.segments segments)).toList = segments.flatMap fun segment => '/' :: segment.toList := by
  rw [text, String.toList_join, List.flatMap_map]
  simp

/-- The segments of a path are what stands between the slashes of its text. -/
lemma splitAt_text {segments : List String} (h : ∀ segment ∈ segments, '/' ∉ segment.toList) :
    splitAt (· = '/') (Path.text (.segments segments)).toList = [] :: segments.map String.toList := by
  rw [Path.toList_text]
  induction segments with
  | nil => rfl
  | cons segment segments ih =>
    have hslash : ∀ c ∈ segment.toList, decide (c = '/') = false := fun c hc =>
      decide_eq_false fun heq => h segment List.mem_cons_self (heq ▸ hc)
    have hsplit := splitAt_append hslash (ih fun s hs => h s (List.mem_cons_of_mem _ hs))
    rw [List.flatMap_cons, List.cons_append, splitAt, hsplit]
    rfl

/-- What stands in front of a path does not depend on what follows a segment that is not empty. -/
lemma authorityText_append (u : Url) (before : List String) {segment : String} (hsegment : segment ≠ "")
    (behind : List String) :
    { u with path := .segments (before ++ segment :: behind) }.authorityText =
      { u with path := .segments (before ++ [segment]) }.authorityText := by
  unfold authorityText
  cases u.authority with
  | some authority => rfl
  | none =>
    rcases before with _ | ⟨first, _ | ⟨second, before⟩⟩
    · simp [hsegment]
    · by_cases hfirst : first = "" <;> simp [hfirst]
    · by_cases hfirst : first = "" <;> simp [hfirst]

/-- URLs that differ in nothing but the last segments of their paths differ in their texts. -/
lemma segments_eq_of_text_eq (u : Url) (before : List String) {segment : String} (hsegment : segment ≠ "")
    {behind behind' : List String} (hslash : ∀ s ∈ behind, '/' ∉ s.toList)
    (hslash' : ∀ s ∈ behind', '/' ∉ s.toList)
    (h : { u with path := .segments (before ++ segment :: behind) }.text =
      { u with path := .segments (before ++ segment :: behind') }.text) : behind = behind' := by
  unfold text at h
  -- The same text stands in front of both paths and behind them, so it can be taken off.
  rw [authorityText_append u before hsegment behind, authorityText_append u before hsegment behind',
    ← String.toList_inj] at h
  simp only [String.toList_append, List.append_assoc, Path.toList_text, List.flatMap_append,
    List.flatMap_cons, List.cons_append, List.append_cancel_left_eq, List.cons.injEq, true_and] at h
  have htail := List.append_cancel_right h
  rw [← Path.toList_text, ← Path.toList_text] at htail
  have hparts := splitAt_text hslash
  rw [htail, splitAt_text hslash'] at hparts
  exact ((List.map_inj_right fun _ _ => String.toList_inj.mp).mp (List.cons.inj hparts).2).symm

/-- Plain texts are read back from their segments. -/
lemma map_decode_segmentText {texts : List String} (h : ∀ text ∈ texts, IsPlainSegment kind text) :
    (texts.map (segmentText kind)).map (fun segment => Percent.decode (Utf8.bytes segment)) =
      texts.map Utf8.bytes := by
  rw [List.map_map]
  apply List.map_congr_left
  intro text htext
  rw [Function.comp_apply, (h text htext).decode_segmentText]

/-- Plain texts that are put behind the path of a URL are told by the text of the URL that comes of it. -/
theorem eq_of_text_extend_eq {u : Url} {segments : List String} (hpath : u.path = .segments segments)
    (htidy : u.kind = .file → IsTidy segments) {first : String} {texts texts' : List String}
    (hfirst : (encodeSegment u.kind first).length = 2)
    (hplain : ∀ text ∈ first :: texts, IsPlainSegment u.kind text)
    (hplain' : ∀ text ∈ first :: texts', IsPlainSegment u.kind text)
    (h : (u.extend (first :: texts)).text = (u.extend (first :: texts')).text) : texts = texts' := by
  have hslash (texts : List String) : ∀ s ∈ texts.map (segmentText u.kind), '/' ∉ s.toList := by
    simp only [List.forall_mem_map]
    exact fun text _ => slash_not_mem_segmentText u.kind text
  rw [extend_of_plain hpath htidy hfirst hplain, extend_of_plain hpath htidy hfirst hplain',
    List.map_cons, List.map_cons] at h
  -- The segments are the same, and each text is read back from its segment.
  have hparts := segments_eq_of_text_eq u (front segments) (segmentText_ne_empty hfirst) (hslash texts)
    (hslash texts') h
  have hbytes := map_decode_segmentText fun text htext => hplain text (List.mem_cons_of_mem _ htext)
  rw [hparts, map_decode_segmentText fun text htext => hplain' text (List.mem_cons_of_mem _ htext)] at hbytes
  exact ((List.map_inj_right fun _ _ h => Utf8.bytes_injective h).mp hbytes).symm

/-! ### Paths of files that have been read -/

lemma head?_dropEmpty (segments : List (List Char)) :
    (dropEmpty segments).head? = some [] → dropEmpty segments = [[]] := by
  fun_induction dropEmpty segments with
  | case1 segment rest ih => exact ih
  | case2 segments hsegments =>
    intro hhead
    cases segments with
    | nil => cases hhead
    | cons first rest =>
      obtain rfl : first = [] := Option.some.inj hhead
      cases rest with
      | nil => rfl
      | cons second rest => exact (hsegments second rest rfl).elim

lemma isTidy_readPath (cs : List Char) : IsTidy (readPath .file cs) := by
  intro hhead
  unfold readPath ordered at hhead ⊢
  simp only [if_true, List.head?_map, Option.map_eq_some_iff] at hhead ⊢
  obtain ⟨first, hfirst, hempty⟩ := hhead
  obtain rfl : first = [] := by simpa using congrArg String.toList hempty
  rw [head?_dropEmpty _ hfirst]
  rfl

lemma isTidy_readPathStart (cs : List Char) : IsTidy (readPathStart .file cs) := by
  cases cs with
  | nil => exact fun _ => rfl
  | cons c rest =>
    unfold readPathStart
    dsimp only
    split_ifs
    · exact isTidy_readPath rest
    · exact isTidy_readPath (c :: rest)

lemma isTidy_of_readFile {scheme : String} {cs : List Char} {u : Url} (h : readFile scheme cs = .ok u)
    {segments : List String} (hpath : u.path = .segments segments) : IsTidy segments := by
  have htidy {authority : Option Authority} {read : List Char → List String} {cs : List Char}
      (hread : ∀ cs, IsTidy (read cs)) (h : finish scheme authority read cs = u) : IsTidy segments := by
    subst h
    cases hpath
    exact hread _
  unfold readFile at h
  split at h
  · dsimp only at h
    split_ifs at h
    · obtain ⟨⟨host, rest⟩, -, h⟩ := exists_of_bind_eq_ok h
      exact htidy isTidy_readPathStart (Except.ok.inj h)
    · exact htidy isTidy_readPath (Except.ok.inj h)
  · exact htidy isTidy_readPath (Except.ok.inj h)

lemma scheme_of_readOther {scheme : String} {cs : List Char} {u : Url} (h : readOther scheme cs = .ok u) :
    u.scheme = scheme := by
  unfold readOther at h
  split at h
  · obtain ⟨⟨authority, rest⟩, -, h⟩ := exists_of_bind_eq_ok h
    rw [← Except.ok.inj h, finish]
  · rw [← Except.ok.inj h, finish]
  · rw [← Except.ok.inj h, finish]

/-- The path of a file begins with an empty segment only if there is no other. -/
lemma isTidy_of_parse {u : Url} (h : parse text = .ok u) (hfile : u.kind = .file)
    {segments : List String} (hpath : u.path = .segments segments) : IsTidy segments := by
  unfold parse at h
  split at h
  · cases h
  · split at h
    · exact isTidy_of_readFile h hpath
    · rename_i hkind
      rw [kind, scheme_of_readOther h, hkind] at hfile
      cases hfile
    · rename_i hkind
      obtain ⟨⟨authority, rest⟩, -, h⟩ := exists_of_bind_eq_ok h
      rw [kind, ← Except.ok.inj h, finish, hkind] at hfile
      cases hfile

end OperatorDaemon.Url
