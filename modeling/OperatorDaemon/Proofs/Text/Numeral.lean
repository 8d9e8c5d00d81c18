import Mathlib.Tactic.Common
import OperatorDaemon.Proofs.Result
import OperatorDaemon.Text.Integer

/-!
# Numerals

What a number is written with, and that a decimal number is read back.
-/

namespace OperatorDaemon

/-- Further digits do not make a number less. -/
lemma le_foldl_digits {radix : Nat} (hradix : 0 < radix) (ds : List Nat) (value : Nat) :
    value ≤ ds.foldl (fun value digit => value * radix + digit) value := by
  induction ds generalizing value with
  | nil => exact Nat.le_refl value
  | cons digit ds ih =>
    calc value ≤ value * radix := Nat.le_mul_of_pos_right value hradix
      _ ≤ value * radix + digit := Nat.le_add_right _ _
      _ ≤ _ := ih _

/-- A number is written with digits of its radix. -/
lemma exists_digitChar_of_mem_toDigits {b n : Nat} (hb : 1 < b) {c : Char} (h : c ∈ Nat.toDigits b n) :
    ∃ d < b, c = Nat.digitChar d := by
  induction n using Nat.strongRecOn with
  | ind n ih =>
    by_cases hlt : n < b
    · rw [Nat.toDigits_of_lt_base hlt, List.mem_singleton] at h
      exact ⟨n, hlt, h⟩
    · rw [Nat.toDigits_of_base_le hb (Nat.not_lt.mp hlt), List.mem_append, List.mem_singleton] at h
      obtain h | rfl := h
      · exact ih (n / b) (Nat.div_lt_self (by omega) hb) h
      · exact ⟨n % b, Nat.mod_lt n (by omega), rfl⟩

lemma isAsciiDigit_digitChar : ∀ d < 10, isAsciiDigit (Nat.digitChar d) := by decide

lemma isAsciiDigit_of_mem_toDigits {n : Nat} {c : Char} (h : c ∈ Nat.toDigits 10 n) : isAsciiDigit c := by
  obtain ⟨d, hd, rfl⟩ := exists_digitChar_of_mem_toDigits (by decide) h
  exact isAsciiDigit_digitChar d hd

namespace Integer

lemma decimalValue?_digitChar : ∀ d < 10, decimalValue? (Nat.digitChar d) = some d := by decide

lemma parseDigits_append (limit value : Nat) (cs cs' : List Char) :
    parseDigits limit value (cs ++ cs') = parseDigits limit value cs >>= fun value => parseDigits limit value cs' := by
  induction cs generalizing value with
  | nil => rfl
  | cons c cs ih =>
    rw [List.cons_append, parseDigits, parseDigits]
    cases decimalValue? c with
    | none => rfl
    | some digit =>
      dsimp only
      split_ifs
      · exact ih _
      · rfl

lemma parseDigits_digitChar {limit value digit : Nat} (hdigit : digit < 10) (h : value * 10 + digit ≤ limit) :
    parseDigits limit value [Nat.digitChar digit] = .ok (value * 10 + digit) := by
  simp only [parseDigits, decimalValue?_digitChar digit hdigit, if_pos h]

/-- A number that fits is read back from its digits. -/
lemma parseDigits_toDigits {limit n : Nat} (h : n ≤ limit) : parseDigits limit 0 (Nat.toDigits 10 n) = .ok n := by
  induction n using Nat.strongRecOn with
  | ind n ih =>
    by_cases hlt : n < 10
    · rw [Nat.toDigits_of_lt_base hlt, parseDigits_digitChar hlt (by omega), Nat.zero_mul, Nat.zero_add]
    · have hsplit : n / 10 * 10 + n % 10 = n := Nat.div_add_mod' n 10
      have hfront := ih (n / 10) (by omega) (by omega)
      rw [Nat.toDigits_of_base_le (by decide) (by omega), parseDigits_append, hfront]
      exact (parseDigits_digitChar (by omega) (by omega)).trans (congrArg _ hsplit)

end Integer

end OperatorDaemon
