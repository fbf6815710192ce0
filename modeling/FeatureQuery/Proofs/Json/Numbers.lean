import FeatureQuery.Json.Reader
import FeatureQuery.Proofs.Json.Unambiguous

/-!
# Reading numbers back

The text of a number is read as the number, if the number is within the range that JSON numbers are kept in. Its
digits are without a leading zero, so they are read as one number, and a significand of 64 bits loses no digit.

## Main results

* `extend_eq_ofDigitChars`: a significand is extended by all digits if the result has 64 bits.
* `readExponent?_toString`: exponents are read back.
* `readNumber?_text`: so are numbers.
-/

namespace FeatureQuery.Json

open FeatureQuery.Text (digitsValue_toDigits dropWhile_run head?_toDigits_ne_zero isDigit_of_mem_toDigits takeWhile_run)

/-- A number that JSON can keep: an integer is not below the least signed and not above the greatest unsigned one of
64 bits, and a significand has 64 bits. -/
def Number.InRange : Number → Prop
  | .integer n => Int64.minValue.toInt ≤ n ∧ n < UInt64.size
  | .real _ significand _ => significand < UInt64.size

/-! ### Digits -/

/-- The digits of a number are as JSON wants them: the first is a zero only if it is the last. -/
theorem toDigits_plain (n : Nat) : ((Nat.toDigits 10 n).isEmpty
    || ((Nat.toDigits 10 n).head? == some '0' && (Nat.toDigits 10 n).length != 1)) = false := by
  rcases Nat.eq_zero_or_pos n with rfl | hn
  · decide
  · simp [head?_toDigits_ne_zero hn]

theorem le_ofDigitChars (significand : Nat) (cs : List Char) : significand ≤ Nat.ofDigitChars 10 cs significand := by
  induction cs generalizing significand with
  | nil => exact Nat.le_refl _
  | cons c cs ih =>
      rw [Nat.ofDigitChars_cons]
      have hnext := ih (10 * significand + (c.toNat - '0'.toNat))
      omega

/-- No digit is left out if the number of all digits has 64 bits. -/
theorem extend_eq_ofDigitChars {significand : Nat} {cs : List Char}
    (h : Nat.ofDigitChars 10 cs significand < UInt64.size) :
    extend significand cs = (Nat.ofDigitChars 10 cs significand, 0) := by
  induction cs generalizing significand with
  | nil => rfl
  | cons c cs ih =>
      rw [Nat.ofDigitChars_cons] at h ⊢
      have hnext := Nat.lt_of_le_of_lt (le_ofDigitChars _ cs) h
      rw [extend, if_pos hnext, ih h]

/-- All digits of a number of 64 bits are kept. -/
theorem extend_toDigits {n : Nat} (h : n < UInt64.size) : extend 0 (Nat.toDigits 10 n) = (n, 0) := by
  rw [extend_eq_ofDigitChars (by rwa [Nat.ofDigitChars_ten_toDigits]), Nat.ofDigitChars_ten_toDigits]

/-- A text that starts with a digit starts with no sign. -/
theorem exists_toDigits_append (n : Nat) (rest : List Char) :
    ∃ c cs, Nat.toDigits 10 n ++ rest = c :: cs ∧ c ≠ '-' ∧ c ≠ '+' := by
  obtain ⟨c, cs, hcs⟩ := List.exists_cons_of_ne_nil (Nat.toDigits_ne_nil (n := n) (b := 10))
  have hdigit : c.isDigit = true := isDigit_of_mem_toDigits (hcs ▸ List.mem_cons_self)
  refine ⟨c, cs ++ rest, by rw [hcs, List.cons_append], ?_, ?_⟩
  · rintro rfl
    exact absurd hdigit (by decide)
  · rintro rfl
    exact absurd hdigit (by decide)

/-! ### Parts of a number -/

section Parts

variable {rest : List Char} (hrest : ∀ c, rest.head? = some c → c.isDigit = false)

include hrest

/-- The digits of a number are read up to its end. -/
theorem takeWhile_toDigits (n : Nat) : (Nat.toDigits 10 n ++ rest).takeWhile Char.isDigit = Nat.toDigits 10 n :=
  takeWhile_run (fun _ => isDigit_of_mem_toDigits) hrest

/-- What follows the digits of a number is left. -/
theorem dropWhile_toDigits (n : Nat) : (Nat.toDigits 10 n ++ rest).dropWhile Char.isDigit = rest :=
  dropWhile_run (fun _ => isDigit_of_mem_toDigits) hrest

/-- An exponent is read back. -/
theorem readExponent?_toString (exponent : Int) :
    readExponent? ('e' :: ((toString exponent).toList ++ rest)) = some (some exponent, rest) := by
  have hvalue := fun n => digitsValue_toDigits 0 n
  simp only [List.replicate_zero, List.nil_append] at hvalue
  rcases toString_int_cases exponent with ⟨n, rfl, htext⟩ | ⟨n, rfl, htext⟩
  · obtain ⟨c, cs, hcs, hminus, hplus⟩ := exists_toDigits_append n rest
    rw [htext, toList_toString_nat]
    simp only [readExponent?, true_or, if_true]
    split
    · next heq => exact absurd (List.cons.inj (hcs.symm.trans heq)).1 hminus
    · next heq => exact absurd (List.cons.inj (hcs.symm.trans heq)).1 hplus
    · simp [takeWhile_toDigits hrest, dropWhile_toDigits hrest, hvalue]
  · rw [htext, toList_toString_nat, List.cons_append]
    simp [readExponent?, takeWhile_toDigits hrest, dropWhile_toDigits hrest, hvalue]
    omega

end Parts

/-- Digits and what follows them, an exponent or nothing more of the number, are read as its parts. -/
theorem readUnsigned?_toDigits (negative : Bool) (n : Nat) {tail rest : List Char} {exponent : Option Int}
    (htail : ∀ c, tail.head? = some c → c.isDigit = false ∧ c ≠ '.')
    (hexponent : readExponent? tail = some (exponent, rest)) :
    readUnsigned? negative (Nat.toDigits 10 n ++ tail)
      = some (Number.ofParts negative (Nat.toDigits 10 n) none exponent, rest) := by
  have hdigit : ∀ c, tail.head? = some c → c.isDigit = false := fun c hc => (htail c hc).1
  have hfraction : readFraction? tail = some (none, tail) := by
    cases tail with
    | nil => rfl
    | cons c tail =>
        rw [readFraction?]
        intro cs heq
        exact (htail c rfl).2 (List.cons.inj heq).1
  simp only [readUnsigned?, takeWhile_toDigits hdigit, dropWhile_toDigits hdigit, toDigits_plain, hfraction,
    Option.bind_eq_bind, Option.bind_some, hexponent]
  rfl

/-! ### Numbers -/

/-- What may stand after a value: a comma, a bracket or a brace that closes, or nothing. -/
def AfterValue (cs : List Char) : Prop :=
  ∀ c, cs.head? = some c → c ∈ [',', ']', '\x7d']

/-- What stands after a value is no exponent. -/
theorem AfterValue.readExponent? {rest : List Char} (h : AfterValue rest) :
    readExponent? rest = some (none, rest) := by
  cases rest with
  | nil => rfl
  | cons c rest =>
      have hmark : c ≠ 'e' ∧ c ≠ 'E' := by
        constructor
        · rintro rfl
          exact absurd (h 'e' rfl) (by decide)
        · rintro rfl
          exact absurd (h 'E' rfl) (by decide)
      simp only [Json.readExponent?, if_neg (not_or.2 hmark)]

/-- What stands after a value is no digit and no point. -/
theorem AfterValue.not_isDigit {rest : List Char} (h : AfterValue rest) :
    ∀ c, rest.head? = some c → c.isDigit = false ∧ c ≠ '.' := by
  intro c hc
  have hclosing := h c hc
  simp only [List.mem_cons, List.not_mem_nil, or_false] at hclosing
  rcases hclosing with rfl | rfl | rfl
  all_goals decide

/-- The digits and the sign of an integer within range make up the integer. -/
theorem Number.ofParts_integer {n : Nat} (h : n < UInt64.size) :
    ofParts false (Nat.toDigits 10 n) none none = .integer n := by
  simp only [ofParts, extend_toDigits h]
  rfl

/-- A negative integer of 64 bits is kept as an integer. -/
theorem Number.ofParts_minus {n : Nat} (h : Int64.minValue.toInt ≤ Int.negSucc n) :
    ofParts true (Nat.toDigits 10 (n + 1)) none none = .integer (Int.negSucc n) := by
  have hmin : Int64.minValue.toInt = -9223372036854775808 := by decide
  have hsize : n + 1 < UInt64.size := by
    simp only [UInt64.size]
    omega
  have hnegative : -((n + 1 : Nat) : Int) = Int.negSucc n := by omega
  simp only [ofParts, extend_toDigits hsize, hnegative]
  rw [if_neg (by decide), if_pos ⟨trivial, by omega, h⟩]

/-- A significand of 64 bits and an exponent make up their number. -/
theorem Number.ofParts_real (negative : Bool) {significand : Nat} (exponent : Int) (h : significand < UInt64.size) :
    ofParts negative (Nat.toDigits 10 significand) none (some exponent) = .real negative significand exponent := by
  simp only [ofParts, extend_toDigits h]
  simp [extend]

/-- **Numbers.** A number within range is read back from its text. -/
theorem readNumber?_text {n : Number} (h : n.InRange) {rest : List Char} (hrest : AfterValue rest) :
    readNumber? (n.text ++ rest) = some (n, rest) := by
  have hplain : ∀ (m : Nat) tail,
      readNumber? (Nat.toDigits 10 m ++ tail) = readUnsigned? false (Nat.toDigits 10 m ++ tail) := by
    intro m tail
    obtain ⟨c, cs, hcs, hminus, -⟩ := exists_toDigits_append m tail
    rw [hcs, readNumber?]
    rintro ds heq
    exact hminus (List.cons.inj heq).1
  cases n with
  | integer n =>
      rcases toString_int_cases n with ⟨m, rfl, htext⟩ | ⟨m, rfl, htext⟩
      · rw [Number.text, htext, toList_toString_nat, hplain,
          readUnsigned?_toDigits false m hrest.not_isDigit hrest.readExponent?,
          Number.ofParts_integer (Int.ofNat_lt.1 h.2)]
      · rw [Number.text, htext, toList_toString_nat, List.cons_append, readNumber?,
          readUnsigned?_toDigits true (m + 1) hrest.not_isDigit hrest.readExponent?, Number.ofParts_minus h.1]
  | real negative significand exponent =>
      have hexponent := readExponent?_toString (fun c hc => (hrest.not_isDigit c hc).1) exponent
      have hmark : ∀ c, ('e' :: ((toString exponent).toList ++ rest)).head? = some c → c.isDigit = false ∧ c ≠ '.' :=
        fun c hc => Option.some.inj hc ▸ by decide
      have hparts := fun negative => readUnsigned?_toDigits negative significand hmark hexponent
      rw [Number.text, toList_toString_nat, List.append_assoc, List.append_assoc, List.cons_append]
      cases negative with
      | true => rw [if_pos rfl, List.singleton_append, readNumber?, hparts, Number.ofParts_real true exponent h]
      | false => rw [if_neg (by decide), List.nil_append, hplain, hparts, Number.ofParts_real false exponent h]

end FeatureQuery.Json
