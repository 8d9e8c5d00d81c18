import Mathlib.Tactic.Common
import OperatorDaemon.Json.Reader

/-!
# The grammar of JSON

Which texts spell which syntax trees. `Spells` has one rule for every form of a value, of the items of a list
and of the members of an object; strings and numbers have grammars of their own. Reading finds the tree that
a text spells, whatever comes behind it, and such a tree can be passed over.
-/

namespace OperatorDaemon.Json

/-! ### Blanks -/

lemma dropSpace_cons_space {c : Option Char} (hc : isSpace c) (s : Symbols) :
    dropSpace (c :: s) = dropSpace s := by
  simp [dropSpace, hc]

lemma dropSpace_cons {c : Option Char} (hc : isSpace c = false) (s : Symbols) :
    dropSpace (c :: s) = c :: s := by
  simp [dropSpace, hc]

lemma dropSpace_append {blank : Symbols} (h : ∀ c ∈ blank, isSpace c) (s : Symbols) :
    dropSpace (blank ++ s) = dropSpace s := by
  induction blank with
  | nil => rfl
  | cons c blank ih =>
    rw [List.cons_append, dropSpace_cons_space (h c List.mem_cons_self)]
    exact ih fun c' hc' => h c' (List.mem_cons_of_mem _ hc')

@[simp] lemma dropSpace_dropSpace (s : Symbols) : dropSpace (dropSpace s) = dropSpace s := by
  induction s with
  | nil => rfl
  | cons c s ih =>
    by_cases hc : isSpace c
    · rw [dropSpace_cons_space hc, ih]
    · rw [Bool.not_eq_true] at hc
      rw [dropSpace_cons hc, dropSpace_cons hc]

/-! ### Strings -/

/-- The characters of a string, from behind the opening quote up to and with the closing one. -/
inductive IsStringBody : Symbols → Prop where
  /-- The closing quote. -/
  | close : IsStringBody [some '"']
  /-- A character that stands for itself. -/
  | plain {c : Char} {s : Symbols} (hcontrol : 0x20 ≤ c.toNat) (hquote : c ≠ '"') (hmark : c ≠ '\\')
      (h : IsStringBody s) : IsStringBody (some c :: s)
  /-- A byte that belongs to no character. -/
  | byte {s : Symbols} (h : IsStringBody s) : IsStringBody (none :: s)
  /-- An escape of two characters. -/
  | escape {c c' : Char} {s : Symbols} (hc : simpleEscape (some c) = some c') (h : IsStringBody s) :
      IsStringBody (some '\\' :: some c :: s)
  /-- An escape with the code of a character, or with one half of a surrogate pair. -/
  | code {a b c d : Option Char} {n : Nat} {s : Symbols} (hn : hexNumber a b c d = some n)
      (h : IsStringBody s) : IsStringBody (some '\\' :: some 'u' :: a :: b :: c :: d :: s)

/-- The text of a string, or what is wrong with it. -/
def bodyText (s : Symbols) : Except Fault String :=
  match readStringBody s with
  | .closed text _ => text.map String.ofList
  | .broken read _ => .error read

/-- A string is read to its closing quote, whatever comes behind it. -/
def IsClosed (s : Symbols) : Prop :=
  ∃ text, text ≠ .error .keyNotString ∧ ∀ rest, readStringBody (s ++ rest) = .closed text rest

namespace IsClosed

variable {s s' : Symbols}

lemma push {c : Char} (h : IsClosed s)
    (hs : ∀ rest, readStringBody (s' ++ rest) = (readStringBody (s ++ rest)).push c) :
    IsClosed s' := by
  obtain ⟨text, htext, hread⟩ := h
  refine ⟨text.map (c :: ·), ?_, fun rest => by rw [hs, hread]; rfl⟩
  cases text with
  | ok cs => simp [Except.map]
  | error fault => exact htext

lemma spoil (fault : Fault) (hfault : fault ≠ .keyNotString) (h : IsClosed s)
    (hs : ∀ rest, readStringBody (s' ++ rest) = (readStringBody (s ++ rest)).spoil fault) :
    IsClosed s' := by
  obtain ⟨text, -, hread⟩ := h
  exact ⟨.error fault, by simpa using hfault, fun rest => by rw [hs, hread]; rfl⟩

lemma stain (h : IsClosed s)
    (hs : ∀ rest, readStringBody (s' ++ rest) = (readStringBody (s ++ rest)).stain) :
    IsClosed s' := by
  obtain ⟨text, htext, hread⟩ := h
  cases text with
  | ok cs => exact ⟨.error .invalidUnicode, by simp, fun rest => by rw [hs, hread]; rfl⟩
  | error fault => exact ⟨.error fault, htext, fun rest => by rw [hs, hread]; rfl⟩

end IsClosed

/-- The first half of a surrogate pair, with anything but an escape with a code behind it. -/
lemma readStringBody_unpaired {a b c d e : Option Char} {n : Nat} {s : Symbols}
    (hn : hexNumber a b c d = some n) (hpair : ¬ (n < 0xD800 ∨ 0xDFFF < n)) (hfirst : ¬ 0xDC00 ≤ n)
    (he : e = some '\\' → ∃ c s', s = c :: s' ∧ c ≠ some 'u') :
    readStringBody (some '\\' :: some 'u' :: a :: b :: c :: d :: e :: s) =
      (readStringBody (e :: s)).spoil .unexpectedHexEnd := by
  simp only [readStringBody, hn, hpair, if_false, hfirst]
  split
  · rename_i hs
    obtain ⟨rfl, rfl⟩ := List.cons_eq_cons.mp hs
    obtain ⟨c, s', hs', hc⟩ := he rfl
    exact absurd (List.cons_eq_cons.mp hs').1.symm hc
  · rename_i hs
    obtain ⟨rfl, rfl⟩ := List.cons_eq_cons.mp hs
    obtain ⟨c, s', hs', hc⟩ := he rfl
    exact absurd (List.cons_eq_cons.mp hs').1.symm hc
  · rename_i hs
    cases hs
  · rename_i hs
    obtain ⟨rfl, rfl⟩ := List.cons_eq_cons.mp hs
    obtain ⟨c, s', hs', -⟩ := he rfl
    cases hs'
  · rfl

/-- The first half of a surrogate pair is read together with the escape behind it, if there is one. -/
lemma IsStringBody.isClosed_surrogate {a b c d : Option Char} {n : Nat} {s : Symbols}
    (hn : hexNumber a b c d = some n) (hpair : ¬ (n < 0xD800 ∨ 0xDFFF < n)) (hfirst : ¬ 0xDC00 ≤ n)
    (h : IsStringBody s) (hs : IsClosed s)
    (hbehind : ∀ e f g k s', s = some '\\' :: some 'u' :: e :: f :: g :: k :: s' → IsClosed s') :
    IsClosed (some '\\' :: some 'u' :: a :: b :: c :: d :: s) := by
  have hunpaired {e : Option Char} {s' : Symbols} (hs' : s = e :: s')
      (he : e = some '\\' → ∃ c s'', s' = c :: s'' ∧ c ≠ some 'u') :
      IsClosed (some '\\' :: some 'u' :: a :: b :: c :: d :: s) := by
    refine hs.spoil .unexpectedHexEnd (by simp) fun rest => ?_
    subst hs'
    refine readStringBody_unpaired hn hpair hfirst fun h => ?_
    obtain ⟨c, s'', rfl, hc⟩ := he h
    exact ⟨c, s'' ++ rest, rfl, hc⟩
  cases h with
  | close => exact hunpaired rfl (by simp)
  | plain hcontrol hquote hmark h => exact hunpaired rfl (by simpa using fun h => absurd h hmark)
  | byte h => exact hunpaired rfl (by simp)
  | @escape c c' s hc h =>
    refine hunpaired rfl fun _ => ⟨_, _, rfl, ?_⟩
    rintro ⟨⟩
    cases hc
  | @code e f g k m s hm h =>
    have hrest := hbehind e f g k s rfl
    by_cases hsecond : 0xDC00 ≤ m ∧ m ≤ 0xDFFF
    · refine hrest.push (c := Char.ofNat (0x10000 + (n - 0xD800) * 0x400 + (m - 0xDC00))) fun rest => ?_
      simp [readStringBody, hn, hpair, hfirst, hm, hsecond]
    · refine hrest.spoil .loneSurrogate (by simp) fun rest => ?_
      simp only [List.cons_append, readStringBody, hn, hpair, if_false, hfirst, hm, hsecond]

/-- A string is read to its closing quote, and so is what comes behind an escape with a code in it. -/
lemma IsStringBody.isClosed_and {s : Symbols} (h : IsStringBody s) :
    IsClosed s ∧
      ∀ a b c d s', s = some '\\' :: some 'u' :: a :: b :: c :: d :: s' → IsClosed s' := by
  induction h with
  | close => exact ⟨⟨.ok [], by simp, fun rest => rfl⟩, by simp⟩
  | @plain c s hcontrol hquote hmark h ih =>
    refine ⟨ih.1.push (c := c) fun rest => ?_, by simp [hmark]⟩
    simp [readStringBody, hmark, Nat.not_lt.mpr hcontrol]
  | byte h ih =>
    exact ⟨ih.1.stain fun rest => by simp [readStringBody], by simp⟩
  | @escape c c' s hc h ih =>
    have hcode : c ≠ 'u' := by
      rintro rfl
      cases hc
    refine ⟨ih.1.push (c := c') fun rest => ?_, by simp [hcode]⟩
    simp [readStringBody, hcode, hc]
  | @code a b c d n s hn h ih =>
    refine ⟨?_, fun a' b' c' d' s' hs => ?_⟩
    · by_cases hpair : n < 0xD800 ∨ 0xDFFF < n
      · refine ih.1.push (c := Char.ofNat n) fun rest => ?_
        simp [readStringBody, hn, hpair]
      · by_cases hfirst : 0xDC00 ≤ n
        · refine ih.1.spoil .loneSurrogate (by simp) fun rest => ?_
          simp [readStringBody, hn, hpair, hfirst]
        · exact h.isClosed_surrogate hn hpair hfirst ih.1 ih.2
    · simp only [List.cons.injEq, true_and] at hs
      obtain ⟨-, -, -, -, rfl⟩ := hs
      exact ih.1

lemma IsStringBody.isClosed {s : Symbols} (h : IsStringBody s) : IsClosed s := h.isClosed_and.1

/-- What reading finds in a string, whatever comes behind it. -/
lemma IsStringBody.exists_read {s : Symbols} (h : IsStringBody s) :
    ∃ text, text.map String.ofList = bodyText s ∧
      ∀ rest, readStringBody (s ++ rest) = .closed text rest := by
  obtain ⟨text, -, hread⟩ := h.isClosed
  refine ⟨text, ?_, hread⟩
  have hs := hread []
  rw [List.append_nil] at hs
  rw [bodyText, hs]

lemma IsStringBody.bodyText_ne {s : Symbols} (h : IsStringBody s) :
    bodyText s ≠ .error .keyNotString := by
  obtain ⟨text, htext, hread⟩ := h.isClosed
  have hs := hread []
  rw [List.append_nil] at hs
  rw [bodyText, hs]
  cases text with
  | ok cs => simp [Except.map]
  | error fault => simpa [Except.map] using htext

/-! ### Numbers -/

/-- The text of decimal digits. -/
def spellDigits (digits : List Nat) : Symbols :=
  digits.map fun d => some (Char.ofNat (48 + d))

/-- Whether numbers are the decimal digits of a number, of which there is at least one. -/
structure AreDigits (digits : List Nat) : Prop where
  ne_nil : digits ≠ []
  lt_ten : ∀ d ∈ digits, d < 10

/-- The text of a fraction. -/
inductive SpellsFraction : List Nat → Symbols → Prop where
  | none : SpellsFraction [] []
  | some {digits : List Nat} (h : AreDigits digits) :
      SpellsFraction digits (some '.' :: spellDigits digits)

/-- The text of an exponent. -/
inductive SpellsExponent : Option (Bool × List Nat) → Symbols → Prop where
  | none : SpellsExponent none []
  | unsigned {mark : Char} {digits : List Nat} (hmark : mark = 'e' ∨ mark = 'E')
      (h : AreDigits digits) :
      SpellsExponent (some (false, digits)) (some mark :: spellDigits digits)
  | positive {mark : Char} {digits : List Nat} (hmark : mark = 'e' ∨ mark = 'E')
      (h : AreDigits digits) :
      SpellsExponent (some (false, digits)) (some mark :: some '+' :: spellDigits digits)
  | negative {mark : Char} {digits : List Nat} (hmark : mark = 'e' ∨ mark = 'E')
      (h : AreDigits digits) :
      SpellsExponent (some (true, digits)) (some mark :: some '-' :: spellDigits digits)

/-- The text of a number without its sign. No zero stands in front of further digits. -/
structure SpellsNumber (n : Number) (s : Symbols) : Prop where
  whole : AreDigits n.whole
  zero : n.whole.head? = some 0 → n.whole = [0]
  parts : ∃ fraction exponent, SpellsFraction n.fraction fraction ∧
    SpellsExponent n.exponent exponent ∧ s = spellDigits n.whole ++ (fraction ++ exponent)

/-- What may come directly behind a value: nothing, a blank, a comma or a closing bracket. -/
def Stops (s : Symbols) : Prop :=
  ∀ c rest, s = c :: rest → isSpace c ∨ c = some ',' ∨ c = some ']' ∨ c = some '\x7d'

lemma isDigitSymbol_digit : ∀ d < 10, isDigitSymbol (some (Char.ofNat (48 + d))) := by decide

lemma digitValue_digit : ∀ d < 10, digitValue (some (Char.ofNat (48 + d))) = d := by decide

/-- The digits at the start of a text are those in front of the first symbol that is none. -/
lemma takeDigits_spellDigits {digits : List Nat} (h : ∀ d ∈ digits, d < 10) {s : Symbols}
    (hs : ∀ c rest, s = c :: rest → isDigitSymbol c = false) :
    takeDigits (spellDigits digits ++ s) = (digits, s) := by
  induction digits with
  | nil =>
    cases s with
    | nil => rfl
    | cons c s => simp [takeDigits, spellDigits, hs c s rfl]
  | cons d digits ih =>
    have hd := h d List.mem_cons_self
    have hdigits := ih fun d' hd' => h d' (List.mem_cons_of_mem _ hd')
    simp only [takeDigits, Prod.mk.injEq, spellDigits] at hdigits ⊢
    simp [isDigitSymbol_digit d hd, digitValue_digit d hd, hdigits.1, hdigits.2]

lemma Stops.isDigitSymbol_eq {s : Symbols} (h : Stops s) (c : Option Char) (rest : Symbols)
    (hs : s = c :: rest) : isDigitSymbol c = false := by
  rcases h c rest hs with hc | rfl | rfl | rfl
  · simp only [isSpace, Bool.or_eq_true, beq_iff_eq] at hc
    rcases hc with ((rfl | rfl) | rfl) | rfl <;> decide
  · decide
  · decide
  · decide

lemma AreDigits.exists_spell {digits : List Nat} (h : AreDigits digits) :
    ∃ d ds c, digits = d :: ds ∧ isDigitSymbol c ∧ spellDigits digits = c :: spellDigits ds := by
  obtain ⟨d, ds, rfl⟩ := List.exists_cons_of_ne_nil h.ne_nil
  exact ⟨d, ds, _, rfl, isDigitSymbol_digit d (h.lt_ten d List.mem_cons_self), rfl⟩

lemma ne_of_isDigitSymbol {c c' : Option Char} (hc : isDigitSymbol c)
    (hc' : isDigitSymbol c' = false) : c ≠ c' := by
  rintro rfl
  simp [hc] at hc'

lemma Stops.ne_mark {s : Symbols} (h : Stops s) {mark : Char} (hmark : mark ∈ ['.', 'e', 'E'])
    (rest : Symbols) : s ≠ some mark :: rest := by
  intro hs
  have hc := h _ _ hs
  simp only [List.mem_cons, List.not_mem_nil, or_false] at hmark
  rcases hmark with rfl | rfl | rfl <;> simp [isSpace] at hc

/-- The exponent is read up to what stops the number. -/
lemma readExponent_of_spells {exponent : Option (Bool × List Nat)} {s rest : Symbols}
    (h : SpellsExponent exponent s) (hrest : Stops rest) (negative : Bool) (whole fraction : List Nat) :
    readExponent negative whole fraction (s ++ rest) =
      ⟨.number ⟨negative, whole, fraction, exponent⟩, some rest⟩ := by
  have htake {digits : List Nat} (hdigits : AreDigits digits) :
      takeDigits (spellDigits digits ++ rest) = (digits, rest) :=
    takeDigits_spellDigits hdigits.lt_ten hrest.isDigitSymbol_eq
  cases h with
  | none =>
    rw [List.nil_append]
    unfold readExponent
    split
    · exact absurd rfl (hrest.ne_mark (by simp) _)
    · exact absurd rfl (hrest.ne_mark (by simp) _)
    · rfl
  | @unsigned mark digits hmark hdigits =>
    have hread := htake hdigits
    obtain ⟨d, ds, c, rfl, hc, hspell⟩ := hdigits.exists_spell
    have hplus : c ≠ some '+' := ne_of_isDigitSymbol hc (by decide)
    have hminus : c ≠ some '-' := ne_of_isDigitSymbol hc (by decide)
    rw [hspell, List.cons_append] at hread ⊢
    rcases hmark with rfl | rfl <;> simp [readExponent, hplus, hminus, hread]
  | @positive mark digits hmark hdigits =>
    obtain ⟨d, ds, -, rfl, -⟩ := hdigits.exists_spell
    rcases hmark with rfl | rfl <;> simp [readExponent, htake hdigits]
  | @negative mark digits hmark hdigits =>
    obtain ⟨d, ds, -, rfl, -⟩ := hdigits.exists_spell
    rcases hmark with rfl | rfl <;> simp [readExponent, htake hdigits]

lemma SpellsExponent.isDigitSymbol_eq {exponent : Option (Bool × List Nat)} {s rest : Symbols}
    (h : SpellsExponent exponent s) (hrest : Stops rest) (c : Option Char) (s' : Symbols)
    (hs : s ++ rest = c :: s') : isDigitSymbol c = false := by
  cases h with
  | none => exact hrest.isDigitSymbol_eq c s' hs
  | unsigned hmark hdigits | positive hmark hdigits | negative hmark hdigits =>
    obtain ⟨rfl, -⟩ := List.cons_eq_cons.mp hs
    rcases hmark with rfl | rfl <;> decide

/-- The fraction is read up to the exponent. -/
lemma readFraction_of_spells {fraction : List Nat} {exponent : Option (Bool × List Nat)}
    {s s' rest : Symbols} (h : SpellsFraction fraction s) (h' : SpellsExponent exponent s')
    (hrest : Stops rest) (negative : Bool) (whole : List Nat) :
    readFraction negative whole (s ++ (s' ++ rest)) =
      ⟨.number ⟨negative, whole, fraction, exponent⟩, some rest⟩ := by
  cases h with
  | none =>
    rw [List.nil_append]
    unfold readFraction
    split
    · rename_i hs
      cases h' with
      | none => exact absurd hs (hrest.ne_mark (by simp) _)
      | unsigned hmark | positive hmark | negative hmark =>
        rcases hmark with rfl | rfl <;> simp at hs
    · exact readExponent_of_spells h' hrest negative whole []
  | some hdigits =>
    have htake := takeDigits_spellDigits hdigits.lt_ten (h'.isDigitSymbol_eq hrest)
    obtain ⟨d, ds, -, rfl, -⟩ := hdigits.exists_spell
    simp only [List.cons_append, readFraction, htake]
    exact readExponent_of_spells h' hrest negative whole _

/-- A number is read up to what stops it. -/
lemma SpellsNumber.readNumber_eq {n : Number} {s rest : Symbols} (h : SpellsNumber n s)
    (hrest : Stops rest) : readNumber n.negative (s ++ rest) = ⟨.number n, some rest⟩ := by
  obtain ⟨negative, whole, fraction, exponent⟩ := n
  obtain ⟨hwhole, hzero, s₁, s₂, hfraction, hexponent, rfl⟩ := h
  dsimp only at hwhole hzero hfraction hexponent ⊢
  have htake : takeDigits (spellDigits whole ++ (s₁ ++ (s₂ ++ rest))) =
      (whole, s₁ ++ (s₂ ++ rest)) := by
    refine takeDigits_spellDigits hwhole.lt_ten fun c s' hs => ?_
    cases hfraction with
    | none => exact hexponent.isDigitSymbol_eq hrest c s' hs
    | some hdigits =>
      obtain ⟨rfl, -⟩ := List.cons_eq_cons.mp hs
      decide
  obtain ⟨d, ds, -, rfl, -⟩ := hwhole.exists_spell
  rw [List.append_assoc, List.append_assoc, readNumber, htake]
  split
  · rename_i hnil
    cases hnil
  · rename_i hlong
    cases hlong
    cases hzero rfl
  · rename_i heq
    cases heq
    exact readFraction_of_spells hfraction hexponent hrest negative _

/-! ### Values, lists and objects -/

/-- A part of a text that has a tree of its own. -/
inductive Part where
  /-- A value. -/
  | value (t : Tree)
  /-- The items of a list up to and with the closing bracket, from the start or from behind an item on. -/
  | items (first : Bool) (ts : List Tree)
  /-- The members of an object up to and with the closing bracket, from the start or from behind a member
  on. -/
  | members (first : Bool) (ms : List (Except Fault String × Tree))

/-- A text spells a part. -/
inductive Spells : Part → Symbols → Prop where
  /-- A blank may stand in front of everything. -/
  | blank {p : Part} {c : Option Char} {s : Symbols} (hc : isSpace c) (h : Spells p s) :
      Spells p (c :: s)
  | null : Spells (.value .null) [some 'n', some 'u', some 'l', some 'l']
  | isTrue : Spells (.value (.bool true)) [some 't', some 'r', some 'u', some 'e']
  | isFalse : Spells (.value (.bool false)) [some 'f', some 'a', some 'l', some 's', some 'e']
  | natural {n : Number} {s : Symbols} (hn : n.negative = false) (h : SpellsNumber n s) :
      Spells (.value (.number n)) s
  | negative {n : Number} {s : Symbols} (hn : n.negative = true) (h : SpellsNumber n s) :
      Spells (.value (.number n)) (some '-' :: s)
  | string {s : Symbols} (h : IsStringBody s) :
      Spells (.value (.string (bodyText s))) (some '"' :: s)
  | array {ts : List Tree} {s : Symbols} (h : Spells (.items true ts) s) :
      Spells (.value (.array ts .closed)) (some '[' :: s)
  | object {ms : List (Except Fault String × Tree)} {s : Symbols} (h : Spells (.members true ms) s) :
      Spells (.value (.object ms .closed)) (some '\x7b' :: s)
  | endItems {first : Bool} : Spells (.items first []) [some ']']
  | item {t : Tree} {ts : List Tree} {s s' : Symbols} (ht : Spells (.value t) s)
      (hts : Spells (.items false ts) s') : Spells (.items true (t :: ts)) (s ++ s')
  | nextItem {t : Tree} {ts : List Tree} {s : Symbols} (h : Spells (.items true (t :: ts)) s) :
      Spells (.items false (t :: ts)) (some ',' :: s)
  | endMembers {first : Bool} : Spells (.members first []) [some '\x7d']
  | member {t : Tree} {ms : List (Except Fault String × Tree)} {name blank s s' : Symbols}
      (hname : IsStringBody name) (hblank : ∀ c ∈ blank, isSpace c) (ht : Spells (.value t) s)
      (hms : Spells (.members false ms) s') :
      Spells (.members true ((bodyText name, t) :: ms))
        (some '"' :: (name ++ (blank ++ some ':' :: (s ++ s'))))
  | nextMember {m : Except Fault String × Tree} {ms : List (Except Fault String × Tree)} {s : Symbols}
      (h : Spells (.members true (m :: ms)) s) : Spells (.members false (m :: ms)) (some ',' :: s)

/-- Blanks may stand in front of everything. -/
lemma Spells.blanks {p : Part} {blank s : Symbols} (hblank : ∀ c ∈ blank, isSpace c)
    (h : Spells p s) : Spells p (blank ++ s) := by
  induction blank with
  | nil => exact h
  | cons c blank ih =>
    exact .blank (hblank c List.mem_cons_self)
      (ih fun c' hc' => hblank c' (List.mem_cons_of_mem _ hc'))

lemma Stops.nil : Stops [] := by
  intro c rest h
  cases h

lemma Stops.cons {c : Option Char}
    (hc : isSpace c ∨ c = some ',' ∨ c = some ']' ∨ c = some '\x7d') (s : Symbols) :
    Stops (c :: s) := by
  intro c' rest h
  obtain ⟨rfl, -⟩ := List.cons_eq_cons.mp h
  exact hc

lemma Stops.blanks {blank : Symbols} (h : ∀ c ∈ blank, isSpace c) : Stops blank := by
  intro c rest hc
  exact .inl (h c (by simp [hc]))

/-- Whether a part may stand directly behind a value. -/
def Part.isFurther : Part → Prop
  | .value _ => False
  | .items first _ | .members first _ => first = false

/-- What stands behind a value in a list or an object stops it. -/
lemma Spells.stops {p : Part} {s : Symbols} (h : Spells p s) (hp : p.isFurther) (rest : Symbols) :
    Stops (s ++ rest) := by
  cases h with
  | blank hc h => exact .cons (.inl hc) _
  | endItems => exact .cons (by simp) _
  | nextItem h => exact .cons (by simp) _
  | endMembers => exact .cons (by simp) _
  | nextMember h => exact .cons (by simp) _
  | null | isTrue | isFalse | natural | negative | string | array | object => cases hp
  | item | member => cases hp

lemma SpellsNumber.exists_digit {n : Number} {s : Symbols} (h : SpellsNumber n s) :
    ∃ c s', isDigitSymbol c ∧ s = c :: s' := by
  obtain ⟨hwhole, -, fraction, exponent, -, -, rfl⟩ := h
  obtain ⟨d, ds, c, -, hc, hspell⟩ := hwhole.exists_spell
  exact ⟨c, _, hc, by rw [hspell]; rfl⟩

lemma isSpace_of_isDigitSymbol {c : Option Char} (hc : isDigitSymbol c) : isSpace c = false := by
  by_contra hspace
  simp only [isSpace, Bool.not_eq_false, Bool.or_eq_true, beq_iff_eq] at hspace
  rcases hspace with ((rfl | rfl) | rfl) | rfl <;> cases hc

/-- What may stand at the start of a part, behind the blanks. -/
def Part.MayBegin (c : Option Char) : Part → Prop
  | .value _ | .items true (_ :: _) => c ≠ some ']'
  | .members true (_ :: _) => c = some '"'
  | .items .. | .members .. => True

/-- There is something behind the blanks at the start of a part. -/
lemma Spells.begins {p : Part} {s : Symbols} (h : Spells p s) :
    ∃ c s', p.MayBegin c ∧ ∀ rest, dropSpace (s ++ rest) = c :: (s' ++ rest) := by
  have hhere {p : Part} {c : Option Char} {s : Symbols} (hc : p.MayBegin c) (hspace : isSpace c = false) :
      ∃ c' s', p.MayBegin c' ∧ ∀ rest, dropSpace (c :: s ++ rest) = c' :: (s' ++ rest) :=
    ⟨c, s, hc, fun rest => dropSpace_cons hspace _⟩
  induction h with
  | blank hc h ih =>
    obtain ⟨c', s', hc', hs'⟩ := ih
    exact ⟨c', s', hc', fun rest => by rw [List.cons_append, dropSpace_cons_space hc, hs']⟩
  | natural hn h =>
    obtain ⟨c, s', hc, rfl⟩ := h.exists_digit
    exact hhere (ne_of_isDigitSymbol hc (by decide)) (isSpace_of_isDigitSymbol hc)
  | null | isTrue | isFalse | negative | string | array | object | nextItem | nextMember | member =>
    exact hhere (by simp [Part.MayBegin]) (by decide)
  | endItems => exact hhere (by simp [Part.MayBegin]) (by decide)
  | endMembers => exact hhere (by simp [Part.MayBegin]) (by decide)
  | item ht hts iht ihts =>
    obtain ⟨c, s', hc, hs'⟩ := iht
    exact ⟨c, s' ++ _, hc, fun rest => by rw [List.append_assoc, hs', List.append_assoc]⟩

/-! ### Reading what is spelled -/

/-- Reading finds a part in a text, and what comes behind it. -/
def Part.IsReadFrom (fuel : Nat) (s rest : Symbols) : Part → Prop
  | .value t => Stops rest → readValue fuel s = ⟨t, some rest⟩
  | .items first ts => readItems fuel first s = ⟨(ts, .closed), some rest⟩
  | .members first ms => readMembers fuel first s = ⟨(ms, .closed), some rest⟩

lemma Part.isReadFrom_blank {p : Part} {c : Option Char} (hc : isSpace c) {fuel : Nat}
    {s rest : Symbols} (h : p.IsReadFrom fuel s rest) : p.IsReadFrom fuel (c :: s) rest := by
  cases fuel with
  | zero =>
    cases p with
    | value t => exact fun hrest => h hrest
    | items first ts => exact h
    | members first ms => exact h
  | succ fuel =>
    cases p with
    | value t => simpa only [IsReadFrom, readValue, dropSpace_cons_space hc] using h
    | items first ts => simpa only [IsReadFrom, readItems, dropSpace_cons_space hc] using h
    | members first ms => simpa only [IsReadFrom, readMembers, dropSpace_cons_space hc] using h

lemma readValue_dropSpace (fuel : Nat) (s : Symbols) :
    readValue fuel (dropSpace s) = readValue fuel s := by
  cases fuel with
  | zero => rfl
  | succ fuel => simp only [readValue, dropSpace_dropSpace]

lemma readLiteral_append (t : Tree) (cs : List Char) (rest : Symbols) :
    readLiteral t cs (cs.map some ++ rest) = ⟨t, some rest⟩ := by
  induction cs with
  | nil => rfl
  | cons c cs ih => simpa [readLiteral] using ih

lemma Spells.length_pos {p : Part} {s : Symbols} (h : Spells p s) : 0 < s.length := by
  obtain ⟨c, s', -, hs⟩ := h.begins
  have hnil := hs []
  cases s with
  | nil => cases hnil
  | cons c s => simp

/-- A value that begins with a digit is a number. -/
lemma readValue_of_isDigitSymbol {c : Option Char} (hc : isDigitSymbol c) (fuel : Nat) (s : Symbols) :
    readValue (fuel + 1) (c :: s) = readNumber false (c :: s) := by
  rw [readValue, dropSpace_cons (isSpace_of_isDigitSymbol hc)]
  split
  · rename_i hs
    cases hs
  all_goals
    rename_i hs
    obtain ⟨rfl, rfl⟩ := List.cons_eq_cons.mp hs
    first
    | cases hc
    | rw [if_pos hc]

/-- Behind a comma the list goes on as it began. -/
lemma readItems_comma {c : Option Char} {s s' : Symbols} (hs : dropSpace s = c :: s')
    (hc : c ≠ some ']') (fuel : Nat) :
    readItems (fuel + 1) false (some ',' :: s) = readItems (fuel + 1) true s := by
  rw [readItems, readItems, dropSpace_cons (by decide)]
  simp [hs, hc]

/-- Behind a comma the object goes on as it began. -/
lemma readMembers_comma {s s' : Symbols} (hs : dropSpace s = some '"' :: s') (fuel : Nat) :
    readMembers (fuel + 1) false (some ',' :: s) = readMembers (fuel + 1) true s := by
  rw [readMembers, readMembers, dropSpace_cons (by decide)]
  simp [hs]

/-- A member is read with those behind it. -/
lemma readMembers_member {fuel : Nat} {name blank s s' rest : Symbols} {t : Tree}
    {ms : List (Except Fault String × Tree)} (hname : IsStringBody name)
    (hblank : ∀ c ∈ blank, isSpace c) (hvalue : readValue fuel s = ⟨t, some s'⟩)
    (hmembers : readMembers fuel false s' = ⟨(ms, .closed), some rest⟩) :
    readMembers (fuel + 1) true (some '"' :: (name ++ (blank ++ some ':' :: s))) =
      ⟨((bodyText name, t) :: ms, .closed), some rest⟩ := by
  obtain ⟨text, htext, hread⟩ := hname.exists_read
  have hcolon : dropSpace (blank ++ some ':' :: s) = some ':' :: s := by
    rw [dropSpace_append hblank, dropSpace_cons (by decide)]
  rw [readMembers, dropSpace_cons (by decide)]
  simp [hread, htext, hcolon, hvalue, hmembers]

/-- Reading finds what is spelled. Each call of the reader has less fuel than the one that makes it, and two
calls are made for a symbol at most. -/
theorem Spells.isReadFrom {p : Part} {s : Symbols} (h : Spells p s) {fuel : Nat}
    (hfuel : 2 * s.length ≤ fuel) (rest : Symbols) : p.IsReadFrom fuel (s ++ rest) rest := by
  induction h generalizing fuel rest with
  | blank hc h ih =>
    rw [List.length_cons] at hfuel
    exact Part.isReadFrom_blank hc (ih (by omega) rest)
  | null =>
    obtain ⟨fuel, rfl⟩ := Nat.exists_eq_add_of_le' (Nat.le_trans (by decide) hfuel : 1 ≤ fuel)
    exact fun _ => readLiteral_append .null ['u', 'l', 'l'] rest
  | isTrue =>
    obtain ⟨fuel, rfl⟩ := Nat.exists_eq_add_of_le' (Nat.le_trans (by decide) hfuel : 1 ≤ fuel)
    exact fun _ => readLiteral_append (.bool true) ['r', 'u', 'e'] rest
  | isFalse =>
    obtain ⟨fuel, rfl⟩ := Nat.exists_eq_add_of_le' (Nat.le_trans (by decide) hfuel : 1 ≤ fuel)
    exact fun _ => readLiteral_append (.bool false) ['a', 'l', 's', 'e'] rest
  | natural hn h =>
    have hpos := (Spells.natural hn h).length_pos
    obtain ⟨fuel, rfl⟩ := Nat.exists_eq_add_of_le' (by omega : 1 ≤ fuel)
    obtain ⟨c, s', hc, rfl⟩ := h.exists_digit
    intro hrest
    have hread := h.readNumber_eq hrest
    rw [hn] at hread
    rwa [List.cons_append, readValue_of_isDigitSymbol hc]
  | negative hn h =>
    rw [List.length_cons] at hfuel
    obtain ⟨fuel, rfl⟩ := Nat.exists_eq_add_of_le' (by omega : 1 ≤ fuel)
    intro hrest
    have hread := h.readNumber_eq hrest
    rw [hn] at hread
    exact hread
  | string h =>
    rw [List.length_cons] at hfuel
    obtain ⟨fuel, rfl⟩ := Nat.exists_eq_add_of_le' (by omega : 1 ≤ fuel)
    obtain ⟨text, htext, hread⟩ := h.exists_read
    intro hrest
    rw [List.cons_append, readValue, dropSpace_cons (by decide)]
    simp only [hread, htext]
  | array h ih =>
    rw [List.length_cons] at hfuel
    obtain ⟨fuel, rfl⟩ := Nat.exists_eq_add_of_le' (by omega : 1 ≤ fuel)
    have hread : readItems fuel true _ = _ := ih (by omega) rest
    intro hrest
    rw [List.cons_append, readValue, dropSpace_cons (by decide)]
    simp only [hread]
  | object h ih =>
    rw [List.length_cons] at hfuel
    obtain ⟨fuel, rfl⟩ := Nat.exists_eq_add_of_le' (by omega : 1 ≤ fuel)
    have hread : readMembers fuel true _ = _ := ih (by omega) rest
    intro hrest
    rw [List.cons_append, readValue, dropSpace_cons (by decide)]
    simp only [hread]
  | endItems =>
    obtain ⟨fuel, rfl⟩ := Nat.exists_eq_add_of_le' (Nat.le_trans (by decide) hfuel : 1 ≤ fuel)
    rfl
  | @item t ts s s' ht hts iht ihts =>
    have hpos := ht.length_pos
    have hpos' := hts.length_pos
    rw [List.length_append] at hfuel
    obtain ⟨fuel, rfl⟩ := Nat.exists_eq_add_of_le' (by omega : 1 ≤ fuel)
    have hvalue : readValue fuel (s ++ (s' ++ rest)) = ⟨t, some (s' ++ rest)⟩ :=
      iht (by omega) _ (hts.stops rfl rest)
    have hitems : readItems fuel false (s' ++ rest) = ⟨(ts, .closed), some rest⟩ :=
      ihts (by omega) rest
    obtain ⟨c, s₁, hc, hs₁⟩ := ht.begins
    rw [← readValue_dropSpace, hs₁] at hvalue
    simp only [Part.MayBegin] at hc
    rw [List.append_assoc, Part.IsReadFrom, readItems, hs₁]
    simp only [if_true, hvalue, hitems]
  | @nextItem t ts s h ih =>
    rw [List.length_cons] at hfuel
    have hread : readItems fuel true (s ++ rest) = ⟨(t :: ts, .closed), some rest⟩ :=
      ih (by omega) rest
    obtain ⟨fuel, rfl⟩ := Nat.exists_eq_add_of_le' (by omega : 1 ≤ fuel)
    obtain ⟨c, s₁, hc, hs₁⟩ := h.begins
    rw [List.cons_append, Part.IsReadFrom, readItems_comma (hs₁ rest) hc]
    exact hread
  | endMembers =>
    obtain ⟨fuel, rfl⟩ := Nat.exists_eq_add_of_le' (Nat.le_trans (by decide) hfuel : 1 ≤ fuel)
    rfl
  | @member t ms name blank s s' hname hblank ht hms iht ihms =>
    have hpos := ht.length_pos
    have hpos' := hms.length_pos
    simp only [List.length_cons, List.length_append] at hfuel
    obtain ⟨fuel, rfl⟩ := Nat.exists_eq_add_of_le' (by omega : 1 ≤ fuel)
    have hvalue : readValue fuel (s ++ (s' ++ rest)) = ⟨t, some (s' ++ rest)⟩ :=
      iht (by omega) _ (hms.stops rfl rest)
    have hmembers : readMembers fuel false (s' ++ rest) = ⟨(ms, .closed), some rest⟩ :=
      ihms (by omega) rest
    simp only [List.append_assoc, List.cons_append]
    exact readMembers_member hname hblank hvalue hmembers
  | @nextMember m ms s h ih =>
    rw [List.length_cons] at hfuel
    have hread : readMembers fuel true (s ++ rest) = ⟨(m :: ms, .closed), some rest⟩ :=
      ih (by omega) rest
    obtain ⟨fuel, rfl⟩ := Nat.exists_eq_add_of_le' (by omega : 1 ≤ fuel)
    obtain ⟨c, s₁, rfl, hs₁⟩ := h.begins
    rw [List.cons_append, Part.IsReadFrom, readMembers_comma (hs₁ rest)]
    exact hread

/-- A text with blanks on both sides of a value is read to the blanks behind it. -/
theorem read_of_spells {t : Tree} {s blank : Symbols} (h : Spells (.value t) s)
    (hblank : ∀ c ∈ blank, isSpace c) : read (s ++ blank) = ⟨t, some blank⟩ := by
  refine h.isReadFrom ?_ blank (.blanks hblank)
  rw [List.length_append]
  omega

/-! ### Passing over what is spelled -/

/-- A part can be passed over. -/
def Part.IsPassedOver : Part → Prop
  | .value t => t.skip = .ok ()
  | .items _ ts => skipItems ts = .ok ()
  | .members _ ms => skipMembers ms = .ok ()

/-- What is spelled can be passed over, even where a string is no Unicode text. -/
theorem Spells.isPassedOver {p : Part} {s : Symbols} (h : Spells p s) : p.IsPassedOver := by
  induction h with
  | blank hc h ih => exact ih
  | null | isTrue | isFalse | natural | negative | string => simp [Part.IsPassedOver, Tree.skip]
  | array h ih | object h ih =>
    simp only [Part.IsPassedOver] at ih
    simp only [Part.IsPassedOver, Tree.skip, ih]
  | endItems => simp [Part.IsPassedOver, skipItems]
  | endMembers => simp [Part.IsPassedOver, skipMembers]
  | item ht hts iht ihts =>
    simp only [Part.IsPassedOver] at iht ihts
    simp only [Part.IsPassedOver, skipItems, iht, ihts]
  | nextItem h ih | nextMember h ih => exact ih
  | member hname hblank ht hms iht ihms =>
    simp only [Part.IsPassedOver] at iht ihms
    have hne := hname.bodyText_ne
    simp only [Part.IsPassedOver, skipMembers, iht, ihms]

end OperatorDaemon.Json
