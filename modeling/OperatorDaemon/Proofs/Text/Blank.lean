import Mathlib.Data.List.TakeWhile
import Mathlib.Tactic.Common
import OperatorDaemon.Text.Blank

/-!
# Trimming

Trimming takes blank characters away and nothing else. It leaves nothing of a text if and only if the text holds
nothing but blank characters.
-/

namespace OperatorDaemon

variable {cs : List Char}

/-- What is not blank is not trimmed. -/
lemma mem_trimChars {c : Char} (hc : c ∈ cs) (h : isBlank c = false) : c ∈ trimChars cs := by
  have hdrop {cs : List Char} (hc : c ∈ cs) : c ∈ cs.dropWhile isBlank := by
    rw [← List.takeWhile_append_dropWhile (p := isBlank) (l := cs), List.mem_append] at hc
    rcases hc with htake | hdrop
    · rw [List.mem_takeWhile_imp htake] at h
      cases h
    · exact hdrop
  rw [trimChars, dropBlankEnd, List.mem_reverse]
  exact hdrop (List.mem_reverse.mpr (hdrop hc))

/-- A text without blanks is not trimmed. -/
lemma trimChars_eq_self (h : ∀ c ∈ cs, isBlank c = false) : trimChars cs = cs := by
  have hdrop {cs : List Char} (h : ∀ c ∈ cs, isBlank c = false) : cs.dropWhile isBlank = cs :=
    List.dropWhile_eq_self_iff.mpr fun hlength => by simp [h _ (List.getElem_mem hlength)]
  have hreverse : ∀ c ∈ cs.reverse, isBlank c = false := fun c hc => h c (List.mem_reverse.mp hc)
  rw [trimChars, hdrop h, dropBlankEnd, hdrop hreverse, List.reverse_reverse]

/-- Blanks around a list of characters make no difference to what is left of it. -/
lemma trimChars_append_append {as bs : List Char} (ha : as.all isBlank) (hb : bs.all isBlank) :
    trimChars (as ++ cs ++ bs) = trimChars cs := by
  have hdrop {as : List Char} (ha : ∀ c ∈ as, isBlank c = true) (cs : List Char) :
      (as ++ cs).dropWhile isBlank = cs.dropWhile isBlank := List.dropWhile_append_of_pos ha
  rw [List.all_eq_true] at ha hb
  have hend : dropBlankEnd (cs.dropWhile isBlank ++ bs) = dropBlankEnd (cs.dropWhile isBlank) := by
    rw [dropBlankEnd, List.reverse_append, hdrop fun c hc => hb c (List.mem_reverse.mp hc), dropBlankEnd]
  rw [trimChars, List.append_assoc, hdrop ha, List.dropWhile_append]
  split_ifs with hcs
  · rw [List.isEmpty_iff] at hcs
    rw [trimChars, hcs, List.dropWhile_eq_nil_iff.mpr hb]
  · exact hend

lemma trimChars_eq_nil_iff : trimChars cs = [] ↔ cs.all isBlank := by
  rw [List.all_eq_true]
  constructor
  · intro h c hc
    by_contra hblank
    have hmem := mem_trimChars hc (Bool.eq_false_iff.mpr hblank)
    rw [h] at hmem
    cases hmem
  · intro h
    rw [trimChars, dropBlankEnd, List.dropWhile_eq_nil_iff.mpr h]
    rfl

lemma trim_eq_empty_iff {s : String} : trim s = "" ↔ isBlankText s := by
  rw [isBlankText, ← trimChars_eq_nil_iff, ← toList_trim, String.toList_eq_nil_iff]

/-- A text with blanks around it. -/
def surround (before value after : String) : String := before ++ value ++ after

section Surround

variable {before after : String} (hbefore : isBlankText before) (hafter : isBlankText after)
include hbefore hafter

lemma trim_surround (value : String) : trim (surround before value after) = trim value := by
  have hchars : (surround before value after).toList = before.toList ++ value.toList ++ after.toList := by
    simp only [surround, String.toList_append]
  rw [trim, hchars, trimChars_append_append hbefore hafter, trim]

lemma isBlankText_surround (value : String) : isBlankText (surround before value after) = isBlankText value := by
  rw [Bool.eq_iff_iff, ← trim_eq_empty_iff, ← trim_eq_empty_iff, trim_surround hbefore hafter]

end Surround

end OperatorDaemon
