import OperatorDaemon.Json.Codec
import OperatorDaemon.Proofs.Json.Spelling
import OperatorDaemon.Proofs.Text.Numeral
import OperatorDaemon.Proofs.Text.Utf8

/-!
# Reading what was written as JSON

The text of a value spells a tree, so that a codec reads the text as it reads that tree.
-/

namespace OperatorDaemon.Json

/-! ### Numbers -/

/-- A natural number as it is written. -/
def Number.ofNat (n : Nat) : Number where
  negative := false
  whole := (Nat.toDigits 10 n).map fun c => c.toNat - 48
  fraction := []
  exponent := none

lemma digitChar_eq : ∀ d < 10, Nat.digitChar d = Char.ofNat (48 + d) := by decide

lemma toNat_digit : ∀ d < 10, (Char.ofNat (48 + d)).toNat - 48 = d := by decide

/-- Only the digits of zero begin with a zero. -/
lemma head?_toDigits {n : Nat} (hn : n ≠ 0) : (Nat.toDigits 10 n).head? ≠ some '0' := by
  induction n using Nat.strongRecOn with
  | ind n ih =>
    by_cases hdigit : n < 10
    · have hfirst : ∀ d < 10, d ≠ 0 → Nat.digitChar d ≠ '0' := by decide
      rw [Nat.toDigits_of_lt_base hdigit]
      simpa using hfirst n hdigit hn
    · have hrest := ih (n / 10) (by omega) (by omega)
      rw [Nat.toDigits_of_base_le (by decide) (by omega), List.head?_append]
      cases hhead : (Nat.toDigits 10 (n / 10)).head? with
      | none => exact absurd (List.head?_eq_none_iff.mp hhead) Nat.toDigits_ne_nil
      | some c => rwa [hhead] at hrest

/-- A natural number is written as a number without fraction and exponent. -/
lemma spells_toDigits (n : Nat) :
    SpellsNumber (Number.ofNat n) ((Nat.toDigits 10 n).map some) := by
  have hdigit (c : Char) (hc : c ∈ Nat.toDigits 10 n) : ∃ d < 10, c = Char.ofNat (48 + d) := by
    obtain ⟨d, hd, rfl⟩ := exists_digitChar_of_mem_toDigits (by decide) hc
    exact ⟨d, hd, digitChar_eq d hd⟩
  constructor
  · constructor
    · simp [Number.ofNat, Nat.toDigits_ne_nil]
    · intro d hmem
      obtain ⟨c, hc, rfl⟩ := List.mem_map.mp hmem
      obtain ⟨d, hd, rfl⟩ := hdigit c hc
      rwa [toNat_digit d hd]
  · intro hzero
    by_cases hn : n = 0
    · subst hn
      rfl
    · exfalso
      simp only [Number.ofNat, List.head?_map, Option.map_eq_some_iff] at hzero
      obtain ⟨c, hhead, hc⟩ := hzero
      obtain ⟨d, hd, rfl⟩ := hdigit c (List.mem_of_mem_head? hhead)
      rw [toNat_digit d hd] at hc
      subst hc
      exact head?_toDigits hn hhead
  · refine ⟨[], [], .none, .none, ?_⟩
    simp only [spellDigits, Number.ofNat, List.map_map, List.append_nil, List.map_inj_left]
    intro c hc
    obtain ⟨d, hd, rfl⟩ := hdigit c hc
    rw [Function.comp_apply, toNat_digit d hd]

/-- All digits of a number are taken if the number is within the limit. -/
lemma gather_of_le {limit n : Nat} {digits : List Nat}
    (h : digits.foldl (fun n d => n * 10 + d) n ≤ limit) :
    gather limit n digits = (digits.foldl (fun n d => n * 10 + d) n, digits.length, 0) := by
  induction digits generalizing n with
  | nil => rfl
  | cons d digits ih =>
    rw [List.foldl_cons] at h
    have hfirst := le_foldl_digits (show 0 < 10 by decide) digits (n * 10 + d)
    rw [gather, if_pos (by omega), ih h]
    rfl

/-- The value of a natural number that is written is the number itself. -/
lemma value_ofNat {n : Nat} (hn : n ≤ maxNatural) : (Number.ofNat n).value = .ok (.natural n) := by
  have hfold : ((Number.ofNat n).whole).foldl (fun n d => n * 10 + d) 0 = n := by
    have hdigits := Nat.ofDigitChars_ten_toDigits (n := n)
    rw [Nat.ofDigitChars_eq_foldl] at hdigits
    simpa only [Number.ofNat, List.foldl_map, Nat.mul_comm, Char.reduceToNat] using hdigits
  have hgather : gather maxNatural 0 (Number.ofNat n).whole = _ := gather_of_le (by rwa [hfold])
  rw [hfold] at hgather
  simp only [Number.value, hgather]
  rfl

/-! ### Strings -/

/-- The ways a character is written in a string. -/
lemma escape_cases (c : Char) :
    (escape c = [c] ∧ 0x20 ≤ c.toNat ∧ c ≠ '"' ∧ c ≠ '\\') ∨
    (∃ c', escape c = ['\\', c'] ∧ c' ≠ 'u' ∧ simpleEscape (some c') = some c) ∨
    (∃ a b, escape c = ['\\', 'u', '0', '0', a, b] ∧ c.toNat < 0x20 ∧
      hexNumber (some '0') (some '0') (some a) (some b) = some c.toNat) := by
  by_cases hquote : c = '"'
  · subst hquote
    exact .inr (.inl ⟨_, rfl, by decide, rfl⟩)
  by_cases hmark : c = '\\'
  · subst hmark
    exact .inr (.inl ⟨_, rfl, by decide, rfl⟩)
  by_cases hcontrol : c.toNat < 0x20
  · by_cases hshort : c ∈ ['\x08', '\t', '\n', '\x0c', '\r']
    · simp only [List.mem_cons, List.not_mem_nil, or_false] at hshort
      rcases hshort with rfl | rfl | rfl | rfl | rfl <;>
        exact .inr (.inl ⟨_, rfl, by decide, rfl⟩)
    · simp only [List.mem_cons, List.not_mem_nil, or_false, not_or] at hshort
      obtain ⟨hb, ht, hn, hf, hr⟩ := hshort
      have hhigh := hexValue?_hexDigit (c.toNat / 16) (by omega)
      have hlow := hexValue?_hexDigit (c.toNat % 16) (by omega)
      refine .inr (.inr ⟨hexDigit (c.toNat / 16), hexDigit (c.toNat % 16), ?_, hcontrol, ?_⟩)
      · rw [escape, if_neg hquote, if_neg hmark, if_neg hb, if_neg ht, if_neg hn, if_neg hf, if_neg hr,
          if_pos hcontrol]
      · have hzero : hexValue? '0' = some 0 := by decide
        simp only [hexNumber, hzero, hhigh, hlow, Option.bind_eq_bind, Option.bind_some]
        congr 1
        omega
  · refine .inl ⟨?_, by omega, hquote, hmark⟩
    have hne {c' : Char} (hc' : c'.toNat < 0x20) : c ≠ c' := by
      rintro rfl
      exact hcontrol hc'
    rw [escape, if_neg hquote, if_neg hmark, if_neg (hne (by decide)), if_neg (hne (by decide)),
      if_neg (hne (by decide)), if_neg (hne (by decide)), if_neg (hne (by decide)), if_neg hcontrol]

/-- Characters that are escaped are a string, and reading gives them back. -/
lemma isStringBody_escape (cs : List Char) :
    IsStringBody ((cs.flatMap escape ++ ['"']).map some) ∧
      readStringBody ((cs.flatMap escape ++ ['"']).map some) = .closed (.ok cs) [] := by
  induction cs with
  | nil => exact ⟨.close, rfl⟩
  | cons c cs ih =>
    obtain ⟨hbody, hread⟩ := ih
    simp only [List.flatMap_cons, List.append_assoc]
    generalize cs.flatMap escape ++ ['"'] = tail at hbody hread
    rcases escape_cases c with ⟨hc, hcontrol, hquote, hmark⟩ | ⟨c', hc, hcode, hescape⟩ |
      ⟨a, b, hc, hcontrol, hnumber⟩
    · rw [hc]
      refine ⟨.plain hcontrol hquote hmark hbody, ?_⟩
      simp [readStringBody, hmark, Nat.not_lt.mpr hcontrol, hread, StringReading.push, Except.map]
    · rw [hc]
      refine ⟨.escape hescape hbody, ?_⟩
      simp [readStringBody, hcode, hescape, hread, StringReading.push, Except.map]
    · rw [hc]
      refine ⟨.code hnumber hbody, ?_⟩
      have hpair : c.toNat < 0xD800 ∨ 0xDFFF < c.toNat := .inl (by omega)
      simp [readStringBody, hnumber, hpair, hread, StringReading.push, Except.map]

/-- What stands behind the opening quote of a text that is written. -/
def stringBody (s : String) : Symbols :=
  (s.toList.flatMap escape ++ ['"']).map some

lemma isStringBody_stringBody (s : String) : IsStringBody (stringBody s) :=
  (isStringBody_escape s.toList).1

@[simp] lemma bodyText_stringBody (s : String) : bodyText (stringBody s) = .ok s := by
  rw [bodyText, stringBody, (isStringBody_escape s.toList).2]
  simp [Except.map]

lemma map_writeString (s : String) : (writeString s).map some = some '"' :: stringBody s := rfl

/-! ### Values -/

mutual

/-- The tree of a value. -/
def Value.tree : Value → Tree
  | .null => .null
  | .bool b => .bool b
  | .number n => .number (Number.ofNat n)
  | .string s => .string (.ok s)
  | .array vs => .array (treeItems vs) .closed
  | .object ms => .object (treeMembers ms) .closed

/-- The trees of the items of a list. -/
def treeItems : List Value → List Tree
  | [] => []
  | v :: vs => v.tree :: treeItems vs

/-- The trees of the members of an object. -/
def treeMembers : List (String × Value) → List (Except Fault String × Tree)
  | [] => []
  | (name, v) :: ms => (.ok name, v.tree) :: treeMembers ms

end

/-- A member of an object is spelled as its name, a colon and its value. -/
lemma Spells.writtenMember {t : Tree} {ms : List (Except Fault String × Tree)} {s s' : Symbols}
    (name : String) (ht : Spells (.value t) s) (hms : Spells (.members false ms) s') :
    Spells (.members true ((.ok name, t) :: ms))
      (some '"' :: (stringBody name ++ some ':' :: (s ++ s'))) := by
  have hblank : ∀ c ∈ ([] : Symbols), isSpace c := by simp
  have h := Spells.member (isStringBody_stringBody name) hblank ht hms
  rwa [bodyText_stringBody] at h

mutual

/-- The text of a value spells its tree. -/
theorem Value.spells_write : ∀ v : Value, Spells (.value v.tree) (v.write.map some)
  | .null => .null
  | .bool true => .isTrue
  | .bool false => .isFalse
  | .number n => .natural rfl (spells_toDigits n)
  | .string s => by
    have h := Spells.string (isStringBody_stringBody s)
    rwa [bodyText_stringBody] at h
  | .array [] => .array .endItems
  | .array (v :: vs) => by
    have h := Spells.item v.spells_write (spells_writeItems vs)
    simpa [Value.write, Value.tree, treeItems] using Spells.array h
  | .object [] => .object .endMembers
  | .object ((name, v) :: ms) => by
    have h := Spells.writtenMember name v.spells_write (spells_writeMembers ms)
    simpa [Value.write, Value.tree, treeMembers, map_writeString] using Spells.object h

/-- The text of further items spells their trees. -/
theorem spells_writeItems : ∀ vs : List Value,
    Spells (.items false (treeItems vs)) ((writeItems vs).map some)
  | [] => .endItems
  | v :: vs => by
    have h := Spells.item v.spells_write (spells_writeItems vs)
    simpa [writeItems, treeItems] using Spells.nextItem h

/-- The text of further members spells their trees. -/
theorem spells_writeMembers : ∀ ms : List (String × Value),
    Spells (.members false (treeMembers ms)) ((writeMembers ms).map some)
  | [] => .endMembers
  | (name, v) :: ms => by
    have h := Spells.writtenMember name v.spells_write (spells_writeMembers ms)
    simpa [writeMembers, treeMembers, map_writeString] using Spells.nextMember h

end

/-- The text of a value is read as its tree. -/
theorem read_write (v : Value) : read (v.write.map some) = ⟨v.tree, some []⟩ := by
  have hblank : ∀ c ∈ ([] : Symbols), isSpace c := by simp
  have h := read_of_spells v.spells_write hblank
  rwa [List.append_nil] at h

/-- A codec reads the text of a value as it reads its tree. -/
theorem Codec.readBytes_text {α : Type} (c : Codec α) (v : Value) :
    c.readBytes (Utf8.bytes v.text) = c.decode v.tree := by
  rw [readBytes, Value.text, Utf8.bytes, String.toList_ofList, Utf8.symbols_encode, read, read_write]
  dsimp only
  cases c.decode v.tree with
  | ok a => rfl
  | error failure => rfl

end OperatorDaemon.Json
