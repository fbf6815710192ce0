/-!
# Integers as decimal text

Reading of integers with an optional sign and ASCII digits, without blanks, and their restriction
to 64 bits.

## Main results

* `int64?_eq_some_iff`: a 64-bit integer is found exactly for the integers it stands for.
* `readNat?_eq_some_iff`: the texts read as natural numbers are the non-empty ones of digits.
-/

namespace FeatureQuery.Number

/-- The number written by decimal digits. -/
def digitsValue (digits : List Char) : Nat :=
  digits.foldl (fun n d => 10 * n + (d.toNat - '0'.toNat)) 0

/-- A power of ten. -/
def tenPow (exponent : Nat) : Nat :=
  Nat.pow 10 exponent

/-- Reads a number that consists of ASCII digits only. -/
def readNat? (cs : List Char) : Option Nat :=
  if !cs.isEmpty && cs.all Char.isDigit then some (digitsValue cs) else none

/-- The texts read as natural numbers are the non-empty ones of digits. -/
theorem readNat?_eq_some_iff {cs : List Char} {n : Nat} :
    readNat? cs = some n ↔ cs ≠ [] ∧ (∀ c ∈ cs, c.isDigit = true) ∧ n = digitsValue cs := by
  simp only [readNat?, Option.ite_none_right_eq_some, Bool.and_eq_true, Bool.not_eq_true',
    List.isEmpty_eq_false_iff, List.all_eq_true, Option.some.injEq, eq_comm (a := n)]
  exact and_assoc

/-- Reads digits after an optional sign. -/
def readInt? : List Char → Option Int
  | '-' :: cs => (readNat? cs).map fun n => -(n : Int)
  | '+' :: cs => (readNat? cs).map fun n => (n : Int)
  | cs => (readNat? cs).map fun n => (n : Int)

/-- The 64-bit integer of a value in its range. -/
def int64? (n : Int) : Option Int64 :=
  if Int64.minValue.toInt ≤ n ∧ n ≤ Int64.maxValue.toInt then some (Int64.ofInt n) else none

/-- A 64-bit integer is found exactly for the integer it stands for. -/
theorem int64?_eq_some_iff {n : Int} {x : Int64} : int64? n = some x ↔ x.toInt = n := by
  simp only [int64?, Option.ite_none_right_eq_some, Option.some.injEq]
  constructor
  · rintro ⟨⟨lo, hi⟩, rfl⟩
    exact Int64.toInt_ofInt_of_le lo (Int.lt_of_le_of_lt hi (by decide))
  · rintro rfl
    exact ⟨⟨Int64.le_toInt x, Int.lt_add_one_iff.1 (Int64.toInt_lt x)⟩, Int64.ofInt_toInt x⟩

/-- Reads a 64-bit integer; one outside the range is not read. -/
def readInt64? (cs : List Char) : Option Int64 :=
  (readInt? cs).bind int64?

/-- The decimal text of a 64-bit integer. -/
def showInt64 (n : Int64) : String :=
  toString n.toInt

end FeatureQuery.Number
