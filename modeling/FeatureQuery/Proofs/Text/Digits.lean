import FeatureQuery.Number.Integer
import Mathlib.Data.List.TakeWhile

/-!
# Runs of digits

A run of characters of a class ends before the first character of another class, so it can be told apart from what
follows it. The decimal digits of a number are such a run; they make up the number again, and only zero is written
with a zero at the start.

## Main results

* `takeWhile_run`, `dropWhile_run`: a run ends where another class begins.
* `append_inj_of_class`: a run and what follows it determine both.
* `digitsValue_toDigits`: digits make up their number.
* `head?_toDigits_ne_zero`: a positive number is written without a leading zero.
-/

namespace FeatureQuery.Text

open FeatureQuery.Number (digitsValue)

/-! ### Runs of a class -/

section Runs

variable {p : Char → Bool} {cs rest : List Char} (hcs : ∀ c ∈ cs, p c = true)
  (hrest : ∀ c, rest.head? = some c → p c = false)

include hcs hrest

/-- A run ends before the first character of another class. -/
theorem takeWhile_run : (cs ++ rest).takeWhile p = cs := by
  rw [List.takeWhile_append_of_pos hcs]
  cases rest with
  | nil => rw [List.takeWhile_nil, List.append_nil]
  | cons c rest => rw [List.takeWhile_cons_of_neg (Bool.eq_false_iff.1 (hrest c rfl)), List.append_nil]

/-- What follows a run is what is left without it. -/
theorem dropWhile_run : (cs ++ rest).dropWhile p = rest := by
  have hall := List.takeWhile_append_dropWhile (p := p) (l := cs ++ rest)
  rw [takeWhile_run hcs hrest] at hall
  exact List.append_cancel_left hall

end Runs

/-- Two texts of characters of a class are the same if what follows each of them is of another class. -/
theorem append_inj_of_class {p : Char → Bool} {cs ds x y : List Char} (hcs : ∀ c ∈ cs, p c = true)
    (hds : ∀ c ∈ ds, p c = true) (hx : ∀ c, x.head? = some c → p c = false)
    (hy : ∀ c, y.head? = some c → p c = false) (h : cs ++ x = ds ++ y) : cs = ds ∧ x = y := by
  have hrun : cs = ds := by rw [← takeWhile_run hcs hx, h, takeWhile_run hds hy]
  rw [hrun, List.append_cancel_left_eq] at h
  exact ⟨hrun, h⟩

/-! ### Decimal digits -/

/-- The decimal digits of a number are digits. -/
theorem isDigit_of_mem_toDigits {n : Nat} {c : Char} (h : c ∈ Nat.toDigits 10 n) : c.isDigit = true :=
  Nat.isDigit_of_mem_toDigits (by decide) (by decide) h

/-- The digits of a number make up the number, also with zeros before them. -/
theorem digitsValue_toDigits (zeros n : Nat) : digitsValue (List.replicate zeros '0' ++ Nat.toDigits 10 n) = n := by
  have hvalue : ∀ digits, digitsValue digits = Nat.ofDigitChars 10 digits 0 := fun _ => rfl
  rw [hvalue, Nat.ofDigitChars_append, Nat.ofDigitChars_replicate_zero, Nat.mul_zero, Nat.ofDigitChars_ten_toDigits]

/-- A positive number is written without a leading zero. -/
theorem head?_toDigits_ne_zero {n : Nat} (h : 0 < n) : (Nat.toDigits 10 n).head? ≠ some '0' := by
  induction n using Nat.base_induction 10 (by decide) with
  | single n hn =>
      rw [Nat.toDigits_of_lt_base hn]
      revert n
      decide
  | digit n d hd hn ih =>
      obtain ⟨c, cs, hcs⟩ := List.exists_cons_of_ne_nil (Nat.toDigits_ne_nil (n := n) (b := 10))
      have hhead := ih hn
      rw [hcs] at hhead
      rw [← Nat.toDigits_append_toDigits (by decide) hn hd, hcs]
      exact hhead

end FeatureQuery.Text
