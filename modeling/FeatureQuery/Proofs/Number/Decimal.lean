import FeatureQuery.Number.Double.Text
import FeatureQuery.Proofs.Json.Unambiguous
import FeatureQuery.Proofs.Number.Rounding
import Mathlib.Data.List.TakeWhile

/-!
# Integers written in decimal

An integer is written by digits, of any number and perhaps with zeros in front, after a minus if it is negative.
Such a text is read as the integer by all readers of numbers: as the 64-bit integer if it is one, and as the float
nearest to it.

## Main results

* `IntWritten.readInt64?_eq`, `IntWritten.exists_double`: what the readers make of the text of an integer.
* `intWritten_showInt64`: the text that a 64-bit integer is shown as.
-/

namespace FeatureQuery.Number

/-- How integers are written in decimal. -/
inductive IntWritten : Int → List Char → Prop
  | digits {digits : List Char} (hne : digits ≠ []) (hdigits : ∀ c ∈ digits, c.isDigit = true) :
      IntWritten (digitsValue digits) digits
  | minus {digits : List Char} (hne : digits ≠ []) (hdigits : ∀ c ∈ digits, c.isDigit = true) :
      IntWritten (-digitsValue digits) ('-' :: digits)

/-- The integers beyond 64 bits. -/
theorem int64?_eq_none_iff {n : Int} : int64? n = none ↔ n < -2 ^ 63 ∨ 2 ^ 63 ≤ n := by
  have hlow : Int64.minValue.toInt = -2 ^ 63 := by decide
  have hhigh : Int64.maxValue.toInt = 2 ^ 63 - 1 := by decide
  rw [int64?, hlow, hhigh]
  simp only [ite_eq_right_iff, reduceCtorEq, imp_false]
  omega

namespace IntWritten

variable {n : Int} {cs : List Char}

/-- Digits that are read as a natural number are written for it. -/
theorem of_readNat? {m : Nat} (h : readNat? cs = some m) (hn : n = m) : IntWritten n cs := by
  obtain ⟨hne, hdigits, rfl⟩ := readNat?_eq_some_iff.1 h
  rw [hn]
  exact .digits hne hdigits

/-- A written integer is not empty. -/
theorem ne_nil (h : IntWritten n cs) : cs ≠ [] := by
  cases h with
  | digits hne _ => exact hne
  | minus _ _ => exact List.cons_ne_nil _ _

/-- A written integer has digits and a minus only. -/
theorem isDigit_or_minus (h : IntWritten n cs) : ∀ c ∈ cs, c.isDigit = true ∨ c = '-' := by
  cases h with
  | digits _ hdigits => exact fun c hc => Or.inl (hdigits c hc)
  | minus _ hdigits =>
      intro c hc
      rcases List.mem_cons.1 hc with rfl | hc
      · exact Or.inr rfl
      · exact Or.inl (hdigits c hc)

/-- A minus can only stand in front. -/
theorem isDigit_of_mem_tail (h : IntWritten n cs) : ∀ c ∈ cs.tail, c.isDigit = true := by
  cases h with
  | digits _ hdigits => exact fun c hc => hdigits c (List.mem_of_mem_tail hc)
  | minus _ hdigits => exact hdigits

/-! ### Reading 64-bit integers -/

/-- A written integer is read back. -/
theorem readInt?_eq (h : IntWritten n cs) : readInt? cs = some n := by
  cases h with
  | digits hne hdigits =>
      have hread := readNat?_eq_some_iff.2 ⟨hne, hdigits, rfl⟩
      unfold readInt?
      split
      · exact absurd (hdigits '-' List.mem_cons_self) (by decide)
      · exact absurd (hdigits '+' List.mem_cons_self) (by decide)
      · rw [hread]
        rfl
  | minus hne hdigits =>
      rw [readInt?, readNat?_eq_some_iff.2 ⟨hne, hdigits, rfl⟩]
      rfl

/-- The text of an integer is read as the 64-bit integer, if it is one. -/
theorem readInt64?_eq (h : IntWritten n cs) : readInt64? cs = int64? n := by
  rw [readInt64?, h.readInt?_eq]
  rfl

/-! ### Reading floats -/

/-- Digits are no letters. -/
theorem toLower_of_isDigit {c : Char} (h : c.isDigit = true) : c.toLower = c := by
  have hbounds : '0'.val ≤ c.val ∧ c.val ≤ '9'.val := by simpa [Char.isDigit] using h
  exact dif_neg fun hupper => absurd (UInt32.le_trans hupper.1 hbounds.2) (by decide)

/-- A word with a letter in it is no text of digits. -/
theorem lowered_ne {digits : List Char} (hdigits : ∀ c ∈ digits, c.isDigit = true) (word : String) {letter : Char}
    (hletter : letter ∈ word.toList) (hnone : letter.isDigit = false) :
    String.ofList (digits.map Char.toLower) ≠ word := by
  rintro rfl
  rw [String.toList_ofList] at hletter
  obtain ⟨c, hc, rfl⟩ := List.mem_map.1 hletter
  rw [toLower_of_isDigit (hdigits c hc), hdigits c hc] at hnone
  exact absurd hnone (by decide)

/-- A text of digits alone is read as the float nearest to their value. -/
theorem readUnsigned?_digits {digits : List Char} (hne : digits ≠ []) (hdigits : ∀ c ∈ digits, c.isDigit = true)
    (negative : Bool) :
    Double.readUnsigned? negative digits = some (Double.ofDecimal negative (digitsValue digits) 0) := by
  have hwhole : digits.takeWhile Char.isDigit = digits := List.takeWhile_eq_self_iff.2 hdigits
  have hrest : digits.dropWhile Char.isDigit = [] := List.dropWhile_eq_nil_iff.2 hdigits
  have hinf := lowered_ne hdigits "inf" (show 'n' ∈ _ by decide) rfl
  have hinfinity := lowered_ne hdigits "infinity" (show 'n' ∈ _ by decide) rfl
  have hnan := lowered_ne hdigits "nan" (show 'n' ∈ _ by decide) rfl
  simp [Double.readUnsigned?, hinf, hinfinity, hnan, Double.readDecimal?, hwhole, hrest, hne, Double.readExponent?]

/-- The text of an integer is read as the float nearest to it. -/
theorem exists_double (h : IntWritten n cs) :
    ∃ x, Double.read? cs = some x ∧ x.scaled? = some (Double.withSign (n < 0) (Double.unitsOf n.natAbs)) := by
  cases h with
  | @digits digits hne hdigits =>
      refine ⟨_, ?_, Double.scaled?_ofDecimal false _⟩
      unfold Double.read?
      split
      · exact absurd (hdigits '-' List.mem_cons_self) (by decide)
      · exact absurd (hdigits '+' List.mem_cons_self) (by decide)
      · exact readUnsigned?_digits hne hdigits false
  | @minus digits hne hdigits =>
      refine ⟨_, readUnsigned?_digits hne hdigits true, ?_⟩
      rw [Double.scaled?_ofDecimal, Int.natAbs_neg, Int.natAbs_natCast]
      refine congrArg some ?_
      -- Zero has no sign, whatever stands before it.
      rcases Nat.eq_zero_or_pos (digitsValue digits) with hzero | hpos
      · rw [hzero, Double.unitsOf_zero]
        rfl
      · rw [decide_eq_true (by omega : -(digitsValue digits : Int) < 0)]

end IntWritten

/-! ### Texts of integers -/

/-- The digits of a number stand for it. -/
theorem digitsValue_toString (n : Nat) : digitsValue (toString n).toList = n := by
  rw [Json.toList_toString_nat]
  exact Nat.ofDigitChars_ten_toDigits

/-- An integer is shown in decimal. -/
theorem intWritten_toString (n : Int) : IntWritten n (toString n).toList := by
  have hne : ∀ m : Nat, (toString m).toList ≠ [] := by
    intro m
    rw [Json.toList_toString_nat]
    exact Nat.toDigits_ne_nil
  rcases Json.toString_int_cases n with ⟨m, rfl, hm⟩ | ⟨m, rfl, hm⟩
  · have h := IntWritten.digits (hne m) fun c => Json.isDigit_of_mem_toString
    rwa [digitsValue_toString, ← hm] at h
  · have h := IntWritten.minus (hne (m + 1)) fun c => Json.isDigit_of_mem_toString
    rwa [digitsValue_toString, ← hm] at h

/-- The decimal text of a 64-bit integer is one of its written forms. -/
theorem intWritten_showInt64 (n : Int64) : IntWritten n.toInt (showInt64 n).toList :=
  intWritten_toString n.toInt

end FeatureQuery.Number
