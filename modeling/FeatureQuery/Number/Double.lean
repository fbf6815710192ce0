import FeatureQuery.Number.Integer

/-!
# Double precision numbers

A finite number of the IEEE 754 format binary64 is a multiple of `2 ^ (-1074)`, the smallest positive
one. The magnitude is kept as that multiple, a natural number, so that comparison, rounding and the
search for a short decimal are exact integer arithmetic. Infinity takes the place of the first power
of two beyond the finite numbers.

## Main results

* `roundHalfEven_bounds`: rounding stays within half a unit.
* `Double.order_self`: every number but the undefined one equals itself.
-/

namespace FeatureQuery.Number

/-- A binary64 number. -/
inductive Double where
  /-- The undefined number. -/
  | nan
  | infinity (negative : Bool)
  /-- A finite number of the given sign whose magnitude is `units * 2 ^ (-1074)`. -/
  | finite (negative : Bool) (units : Nat)
  deriving DecidableEq

/-- The quotient rounded to the nearest integer; a half goes to the even neighbour. -/
def roundHalfEven (num den : Nat) : Nat :=
  let quotient := num / den
  let twice := 2 * (num % den)
  if twice < den then quotient
  else if den < twice then quotient + 1
  else if quotient % 2 = 0 then quotient
  else quotient + 1

/-- A rounded quotient is within a half of the quotient. -/
theorem roundHalfEven_bounds (num : Nat) {den : Nat} (h : 0 < den) :
    2 * num ≤ (2 * roundHalfEven num den + 1) * den
      ∧ 2 * roundHalfEven num den * den ≤ 2 * num + den := by
  have hdiv := Nat.div_add_mod num den
  have hlt := Nat.mod_lt num h
  have hmul : den * (num / den) = num / den * den := Nat.mul_comm _ _
  unfold roundHalfEven
  simp only
  split
  · constructor <;> simp only [Nat.add_mul, Nat.mul_assoc] <;> omega
  · split
    · constructor <;> simp only [Nat.add_mul, Nat.mul_add, Nat.mul_assoc] <;> omega
    · split
      · constructor <;> simp only [Nat.add_mul, Nat.mul_assoc] <;> omega
      · constructor <;> simp only [Nat.add_mul, Nat.mul_add, Nat.mul_assoc] <;> omega

namespace Double

/-- The unit of magnitude is `2 ^ (-unitExponent)`. -/
def unitExponent : Nat := 1074

/-- The first power of two beyond the finite numbers, in units. -/
def overflow : Nat := 1 <<< 2098

/-- The distance between the numbers around a magnitude: 53 binary digits are kept. -/
def gridStep (units : Nat) : Nat :=
  1 <<< (Nat.log2 units + 1 - 53)

/-- The number nearest to a quotient; a half goes to the neighbour with an even last digit, and
what reaches the first power of two beyond the finite numbers is infinite. -/
def ofRatio (negative : Bool) (num den : Nat) : Double :=
  let scaled := num <<< unitExponent
  let step := gridStep (scaled / den)
  let units := roundHalfEven scaled (den * step) * step
  if units < overflow then .finite negative units else .infinity negative

/-- The number nearest to an integer. -/
def ofInt (n : Int) : Double :=
  ofRatio (n < 0) n.natAbs 1

/-- The number nearest to `± digits * 10 ^ exponent`. A magnitude that is beyond the finite numbers or
below half the smallest positive one by its count of digits alone is not computed. -/
def ofDecimal (negative : Bool) (digits : Nat) (exponent : Int) : Double :=
  let magnitude := (Nat.toDigits 10 digits).length + exponent
  if digits = 0 then .finite negative 0
  else if 310 < magnitude then .infinity negative
  else if magnitude < -330 then .finite negative 0
  else ofRatio negative (digits * tenPow exponent.toNat) (tenPow (-exponent).toNat)

/-- The signed magnitude in units; none for the undefined number. -/
def scaled? : Double → Option Int
  | .nan => none
  | .infinity negative => some (if negative then -overflow else overflow)
  | .finite negative units => some (if negative then -units else units)

/-- The order of two numbers; the undefined number is comparable with none. -/
def order (a b : Double) : Option Ordering := do
  return compare (← a.scaled?) (← b.scaled?)

/-- A number with a signed magnitude is equal to itself. -/
theorem order_of_scaled? {a : Double} {n : Int} (h : a.scaled? = some n) :
    a.order a = some .eq := by
  simp [order, h]

/-- So every number but the undefined one is. -/
theorem order_self {a : Double} (h : a ≠ .nan) : a.order a = some .eq := by
  cases a with
  | nan => exact absurd rfl h
  | infinity negative => exact order_of_scaled? rfl
  | finite negative units => exact order_of_scaled? rfl

/-- Nothing compares with the undefined number. -/
theorem order_nan (a : Double) : a.order .nan = none := by
  cases a <;> rfl

/-- The bits of the number; the undefined number has one pattern here. -/
def toBits : Double → Nat
  | .nan => 0x7FF8000000000000
  | .infinity negative => signBit negative + 0x7FF0000000000000
  | .finite negative units =>
    let exponent := Nat.log2 units + 1 - 53
    -- The hidden leading digit of a normal number adds one to the exponent field.
    signBit negative + exponent <<< 52 + units >>> exponent
where
  signBit (negative : Bool) : Nat := if negative then 1 <<< 63 else 0

end Double

end FeatureQuery.Number
