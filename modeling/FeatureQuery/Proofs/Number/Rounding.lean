import FeatureQuery.Number.Double
import Mathlib.Data.Nat.Digits.Defs

/-!
# Rounding integers to floats

The float nearest to an integer is found on a grid, whose step doubles at every power of two. Rounding keeps the
order, although it does not keep integers apart: from half a step below a float to half a step above it all
integers have this float for their nearest one. Around `2 ^ 63`, where the 64-bit integers end, the steps are
`1024` below and `2048` above.

## Main results

* `onGrid_mono`: rounding keeps the order.
* `unitsOf_lt_iff`, `lt_unitsOf_iff`: the integers that are rounded to `2 ^ 63`, and those that are rounded to
  floats below and above it.
* `scaled?_ofInt`, `scaled?_ofDecimal`: an integer, and a decimal without a point, become the float nearest to
  them.
* `order_ofInt_of_beyond`: how a 64-bit integer compares with the float nearest to an integer beyond 64 bits.
-/

namespace FeatureQuery.Number

/-! ### Rounding to the nearest integer -/

/-- Rounding goes down to the quotient or up to the next integer. -/
theorem roundHalfEven_cases (num den : Nat) :
    (roundHalfEven num den = num / den ∧ 2 * (num % den) ≤ den)
      ∨ (roundHalfEven num den = num / den + 1 ∧ den ≤ 2 * (num % den)) := by
  unfold roundHalfEven
  simp only
  split
  · exact Or.inl ⟨rfl, by omega⟩
  · split
    · exact Or.inr ⟨rfl, by omega⟩
    · split
      · exact Or.inl ⟨rfl, by omega⟩
      · exact Or.inr ⟨rfl, by omega⟩

/-- Rounding keeps the order. -/
theorem roundHalfEven_mono {num num' : Nat} (den : Nat) (h : num ≤ num') :
    roundHalfEven num den ≤ roundHalfEven num' den := by
  have hquotient : num / den ≤ num' / den := Nat.div_le_div_right h
  by_cases hsame : num / den = num' / den
  · have hrest : num % den ≤ num' % den := by
      have hnum := Nat.div_add_mod num den
      have hnum' := Nat.div_add_mod num' den
      rw [hsame] at hnum
      omega
    unfold roundHalfEven
    simp only [hsame]
    split_ifs <;> omega
  · rcases roundHalfEven_cases num den with ⟨heq, -⟩ | ⟨heq, -⟩ <;>
      rcases roundHalfEven_cases num' den with ⟨heq', -⟩ | ⟨heq', -⟩ <;> omega

/-- A multiple of the denominator is not rounded. -/
theorem roundHalfEven_mul {den : Nat} (hden : 0 < den) (q : Nat) : roundHalfEven (q * den) den = q := by
  rcases roundHalfEven_cases (q * den) den with ⟨heq, -⟩ | ⟨-, hrest⟩
  · rw [heq, Nat.mul_div_cancel q hden]
  · rw [Nat.mul_mod_left] at hrest
    omega

namespace Double

/-! ### Rounding to the grid -/

/-- The multiple of the distance between the numbers around a magnitude that is nearest to it. -/
def onGrid (units : Nat) : Nat :=
  roundHalfEven units (gridStep units) * gridStep units

/-- A step of the grid is the place of the last of 53 binary digits. -/
theorem gridStep_eq (units : Nat) : gridStep units = 2 ^ (Nat.log2 units - 52) := by
  rw [gridStep, Nat.one_shiftLeft]
  rfl

/-- The grid has no step of zero. -/
theorem gridStep_pos (units : Nat) : 0 < gridStep units := by
  rw [gridStep_eq]
  exact Nat.two_pow_pos _

/-- The powers of two from the step on are on the grid. -/
theorem two_pow_eq_mul_gridStep {units j : Nat} (h : Nat.log2 units - 52 ≤ j) :
    2 ^ j = 2 ^ (j - (Nat.log2 units - 52)) * gridStep units := by
  rw [gridStep_eq, ← Nat.pow_add, Nat.sub_add_cancel h]

/-- What is at most a power of two on the grid is not rounded beyond it. -/
theorem onGrid_le_two_pow {units j : Nat} (h : units ≤ 2 ^ j) (hj : Nat.log2 units - 52 ≤ j) :
    onGrid units ≤ 2 ^ j := by
  rw [two_pow_eq_mul_gridStep hj] at h ⊢
  have hround := roundHalfEven_mono (gridStep units) h
  rw [roundHalfEven_mul (gridStep_pos units)] at hround
  exact Nat.mul_le_mul_right _ hround

/-- What is at least a power of two on the grid is not rounded below it. -/
theorem two_pow_le_onGrid {units j : Nat} (h : 2 ^ j ≤ units) (hj : Nat.log2 units - 52 ≤ j) :
    2 ^ j ≤ onGrid units := by
  rw [two_pow_eq_mul_gridStep hj] at h ⊢
  have hround := roundHalfEven_mono (gridStep units) h
  rw [roundHalfEven_mul (gridStep_pos units)] at hround
  exact Nat.mul_le_mul_right _ hround

/-- **Order.** Rounding to the grid keeps the order. -/
theorem onGrid_mono {a b : Nat} (h : a ≤ b) : onGrid a ≤ onGrid b := by
  rcases Nat.lt_or_ge (Nat.log2 a) (Nat.log2 b) with hlog | hlog
  · -- A power of two that is on both grids stands between the two.
    have hb : b ≠ 0 := by
      rintro rfl
      exact absurd hlog (Nat.not_lt_zero _)
    have hbelow : a ≤ 2 ^ Nat.log2 b :=
      (Nat.lt_log2_self.trans_le (Nat.pow_le_pow_right (by decide) hlog)).le
    calc onGrid a ≤ 2 ^ Nat.log2 b := onGrid_le_two_pow hbelow (by omega)
      _ ≤ onGrid b := two_pow_le_onGrid (Nat.log2_self_le hb) (by omega)
  · have hsame : Nat.log2 a = Nat.log2 b := by
      by_cases ha : a = 0
      · subst ha
        rw [Nat.log2_zero] at hlog ⊢
        omega
      · have hle := (Nat.le_log2 (by omega : b ≠ 0)).2 ((Nat.log2_self_le ha).trans h)
        omega
    have hstep : gridStep a = gridStep b := by rw [gridStep_eq, gridStep_eq, hsame]
    rw [onGrid, onGrid, hstep]
    exact Nat.mul_le_mul_right _ (roundHalfEven_mono (gridStep b) h)

/-! ### The float nearest to an integer -/

/-- The magnitude of the number nearest to an integer. Infinity counts as the first power of two beyond the finite
numbers. -/
def unitsOf (n : Nat) : Nat :=
  min (onGrid (n <<< unitExponent)) overflow

/-- Rounding keeps the order of numbers. -/
theorem unitsOf_mono {n m : Nat} (h : n ≤ m) : unitsOf n ≤ unitsOf m := by
  have hshift : n <<< unitExponent ≤ m <<< unitExponent := by
    rw [Nat.shiftLeft_eq, Nat.shiftLeft_eq]
    exact Nat.mul_le_mul_right _ h
  have hgrid := onGrid_mono hshift
  unfold unitsOf
  omega

/-- Zero is rounded to itself. -/
theorem unitsOf_zero : unitsOf 0 = 0 := by
  decide +kernel

/-- The number nearest to an integer is below `2 ^ 63` if the integer is so by more than half a step. -/
theorem unitsOf_lt_iff {n : Nat} : unitsOf n < unitsOf (2 ^ 63) ↔ n < 2 ^ 63 - 512 := by
  have hlast : unitsOf (2 ^ 63 - 513) < unitsOf (2 ^ 63) := by decide +kernel
  have hfirst : unitsOf (2 ^ 63 - 512) = unitsOf (2 ^ 63) := by decide +kernel
  constructor
  · intro h
    by_contra hge
    have hmono := unitsOf_mono (Nat.not_lt.1 hge)
    omega
  · intro h
    have hmono := unitsOf_mono (show n ≤ 2 ^ 63 - 513 by omega)
    omega

/-- The number nearest to an integer is above `2 ^ 63` if the integer is so by more than half a step. -/
theorem lt_unitsOf_iff {n : Nat} : unitsOf (2 ^ 63) < unitsOf n ↔ 2 ^ 63 + 1024 < n := by
  have hlast : unitsOf (2 ^ 63 + 1024) = unitsOf (2 ^ 63) := by decide +kernel
  have hfirst : unitsOf (2 ^ 63) < unitsOf (2 ^ 63 + 1025) := by decide +kernel
  constructor
  · intro h
    by_contra hle
    have hmono := unitsOf_mono (Nat.not_lt.1 hle)
    omega
  · intro h
    have hmono := unitsOf_mono (show 2 ^ 63 + 1025 ≤ n by omega)
    omega

/-- A magnitude with its sign. -/
def withSign (negative : Bool) (units : Nat) : Int :=
  if negative then -units else units

/-- A quotient by one becomes the number nearest to the integer. -/
theorem scaled?_ofRatio_one (negative : Bool) (n : Nat) :
    (ofRatio negative n 1).scaled? = some (withSign negative (unitsOf n)) := by
  have hratio : ofRatio negative n 1
      = if onGrid (n <<< unitExponent) < overflow then .finite negative (onGrid (n <<< unitExponent))
        else .infinity negative := by
    simp only [ofRatio, Nat.div_one, Nat.one_mul]
    rfl
  rw [hratio, unitsOf, withSign]
  split
  · next hlt => rw [scaled?, Nat.min_eq_left hlt.le]
  · next hge => rw [scaled?, Nat.min_eq_right (Nat.not_lt.1 hge)]

/-- An integer becomes the number nearest to it. -/
theorem scaled?_ofInt (n : Int) : (ofInt n).scaled? = some (withSign (n < 0) (unitsOf n.natAbs)) :=
  scaled?_ofRatio_one _ _

/-- A decimal without a point becomes the number nearest to it. -/
theorem scaled?_ofDecimal (negative : Bool) (digits : Nat) :
    (ofDecimal negative digits 0).scaled? = some (withSign negative (unitsOf digits)) := by
  rw [ofDecimal]
  simp only [Int.add_zero]
  split
  · next hzero =>
      rw [hzero, unitsOf_zero]
      rfl
  · split
    · next hlong =>
        -- A number of so many digits is beyond the finite ones.
        have hle : 10 ^ 310 ≤ digits := by
          by_contra hlt
          have hlength := Nat.toDigits_length 10 digits 310 (by decide) (Nat.not_le.1 hlt)
          omega
        have hbound : unitsOf (10 ^ 310) = overflow := by decide +kernel
        have hunits : unitsOf digits = overflow := by
          have hmono := unitsOf_mono hle
          unfold unitsOf at hmono hbound ⊢
          omega
        rw [hunits]
        rfl
    · split
      · next hshort => exact absurd hshort (by omega)
      · exact (congrArg (fun n => (ofRatio negative n 1).scaled?) (Nat.mul_one digits)).trans
          (scaled?_ofRatio_one negative digits)

/-! ### Integers beyond 64 bits -/

/-- A 64-bit integer and one beyond 64 bits are rounded to the same end of the range: the one lies within half a
step inside it, the other within half a step outside. -/
def Blurred (n m : Int) : Prop :=
  (2 ^ 63 ≤ m ∧ m ≤ 2 ^ 63 + 1024 ∧ 2 ^ 63 - 512 ≤ n)
    ∨ (m < -2 ^ 63 ∧ -(2 ^ 63 + 1024) ≤ m ∧ n ≤ -(2 ^ 63 - 512))

instance (n m : Int) : Decidable (Blurred n m) :=
  inferInstanceAs (Decidable (_ ∨ _))

/-- Pairs of integers that are in the same order compare in the same way. -/
theorem compare_congr {a b c d : Int} (hlt : a < b ↔ c < d) (hgt : b < a ↔ d < c) : compare a b = compare c d := by
  rcases lt_trichotomy a b with h | h | h
  · rw [compare_lt_iff_lt.2 h, compare_lt_iff_lt.2 (hlt.1 h)]
  · rw [compare_eq_iff_eq.2 h, compare_eq_iff_eq.2 (by omega)]
  · rw [compare_gt_iff_gt.2 h, compare_gt_iff_gt.2 (hgt.1 h)]

/-- **Integers beyond 64 bits.** A 64-bit integer compares with the number nearest to an integer beyond 64 bits as
with this integer itself, unless both are rounded to the same end of the range: then it compares equal. -/
theorem order_ofInt_of_beyond {n m : Int} (hn : -2 ^ 63 ≤ n ∧ n < 2 ^ 63) (hm : m < -2 ^ 63 ∨ 2 ^ 63 ≤ m)
    {x : Double} (hx : x.scaled? = some (withSign (m < 0) (unitsOf m.natAbs))) :
    (ofInt n).order x = some (compare (if Blurred n m then m else n) m) := by
  have hpos : 0 < unitsOf (2 ^ 63) := by decide +kernel
  -- Rounding keeps the integer inside the range and the other one outside.
  have hinside : unitsOf n.natAbs ≤ unitsOf (2 ^ 63) := unitsOf_mono (by omega)
  have hbeyond : unitsOf (2 ^ 63) ≤ unitsOf m.natAbs := unitsOf_mono (by omega)
  have hnear : unitsOf n.natAbs < unitsOf (2 ^ 63) ↔ n.natAbs < 2 ^ 63 - 512 := unitsOf_lt_iff
  have hfar : unitsOf (2 ^ 63) < unitsOf m.natAbs ↔ 2 ^ 63 + 1024 < m.natAbs := lt_unitsOf_iff
  rw [order, scaled?_ofInt, hx]
  refine congrArg some ?_
  generalize unitsOf (2 ^ 63) = limit at *
  generalize unitsOf n.natAbs = a at *
  generalize unitsOf m.natAbs = b at *
  simp only [withSign, decide_eq_true_eq, Blurred]
  rcases hm with hm | hm
  · rw [if_pos (show m < 0 by omega)]
    refine compare_congr ?_ ?_ <;> split_ifs <;> omega
  · rw [if_neg (show ¬ m < 0 by omega)]
    refine compare_congr ?_ ?_ <;> split_ifs <;> omega

end Double

end FeatureQuery.Number
