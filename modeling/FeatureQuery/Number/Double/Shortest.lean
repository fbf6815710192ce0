import FeatureQuery.Number.Double

/-!
# The shortest decimal of a double precision number

Among the decimals that are read back as a given number, the displayed one has the fewest digits, and
of those it is the nearest to the number; of two equally near ones it is the larger. For each count of
digits the two neighbours of the number on that decimal grid are tried: if any point of the grid reads
back, one of them does.

Numbers are written without an exponent, and without a point when they are integers.

## Main results

* `text_ne_empty`: every number has a text.
-/

namespace FeatureQuery.Number.Double

/-- The numbers that read back as a positive magnitude, in quarters of a unit: an interval that
contains its ends when the last binary digit is even. -/
structure Neighbourhood where
  low : Nat
  value : Nat
  high : Nat
  closed : Bool

/-- Half the distance to the next number lies on either side; below a power of two the distance is
half as large, except at the smallest step. -/
def neighbourhood (units : Nat) : Neighbourhood where
  low := 4 * units - (if units = 1 <<< Nat.log2 units ∧ 1 < gridStep units then 1 else 2) * gridStep units
  value := 4 * units
  high := 4 * units + 2 * gridStep units
  closed := units / gridStep units % 2 = 0

/-- The decimal `coefficient * 10 ^ exponent`. -/
structure Decimal where
  coefficient : Nat
  exponent : Int

/-- Compares a decimal with a magnitude in quarters of a unit. -/
def Decimal.order (d : Decimal) (quarters : Nat) : Ordering :=
  compare ((d.coefficient * tenPow d.exponent.toNat) <<< (unitExponent + 2))
    (quarters * tenPow (-d.exponent).toNat)

/-- The decimal is read back as the number. -/
def Neighbourhood.contains (n : Neighbourhood) (d : Decimal) : Bool :=
  match d.order n.low, d.order n.high with
  | .lt, _ => false
  | _, .gt => false
  | .eq, _ => n.closed
  | _, .eq => n.closed
  | .gt, .lt => true

/-- The decimal on the grid `10 ^ exponent` that reads back and is nearest to the number. -/
def Neighbourhood.onGrid (n : Neighbourhood) (exponent : Int) : Option Decimal :=
  let up := tenPow exponent.toNat <<< (unitExponent + 2)
  let scaled := n.value * tenPow (-exponent).toNat
  let below : Decimal := ⟨scaled / up, exponent⟩
  let above : Decimal := ⟨scaled / up + 1, exponent⟩
  match n.contains below, n.contains above with
  | true, true => if 2 * (scaled % up) < up then some below else some above
  | true, false => some below
  | false, true => some above
  | false, false => none

/-- The number of decimal digits before the point; zero or negative for a number below one, whose
leading zeros after the point it counts. -/
def leadingExponent (units : Nat) : Int :=
  (Nat.toDigits 10 ((units * tenPow 400) >>> unitExponent)).length - 400

/-- The shortest decimal that reads back as a positive magnitude. Seventeen digits always suffice; the
exact decimal stands in where none of them read back. -/
def shortest (units : Nat) : Decimal :=
  let n := neighbourhood units
  let leading := leadingExponent units
  let candidates := (List.range 17).filterMap fun (count : Nat) => n.onGrid (leading - (count + 1))
  candidates.headD ⟨units * Nat.pow 5 unitExponent, -unitExponent⟩

/-- The text of a decimal without an exponent: trailing zeros after the point are left out. -/
def Decimal.positional (d : Decimal) : List Char :=
  let digits := Nat.toDigits 10 d.coefficient
  if 0 ≤ d.exponent then
    digits ++ List.replicate d.exponent.toNat '0'
  else
    let places := (-d.exponent).toNat
    let padded := List.replicate (places + 1 - digits.length) '0' ++ digits
    let whole := padded.take (padded.length - places)
    let fraction := (padded.drop (padded.length - places)).reverse.dropWhile (· == '0') |>.reverse
    if fraction.isEmpty then whole else whole ++ '.' :: fraction

/-- The text of a magnitude. -/
def magnitudeText (units : Nat) : List Char :=
  if units = 0 then ['0'] else (shortest units).positional

/-- The text of a number; the sign of zero is kept. -/
def text : Double → String
  | .nan => "NaN"
  | .infinity negative => if negative then "-inf" else "inf"
  | .finite negative units =>
    String.ofList (if negative then '-' :: magnitudeText units else magnitudeText units)

/-- A decimal is written with a digit before the point at least. -/
theorem Decimal.positional_ne_nil (d : Decimal) : d.positional ≠ [] := by
  have hdigits : Nat.toDigits 10 d.coefficient ≠ [] := Nat.toDigits_ne_nil
  rw [positional]
  split
  · exact List.append_ne_nil_of_left_ne_nil hdigits _
  · dsimp only
    generalize hpadded : List.replicate _ '0' ++ Nat.toDigits 10 d.coefficient = padded
    have hlength : (-d.exponent).toNat < padded.length := by
      have := List.length_pos_iff.2 hdigits
      rw [← hpadded, List.length_append, List.length_replicate]
      omega
    have hwhole : padded.take (padded.length - (-d.exponent).toNat) ≠ [] := by
      rw [← List.length_pos_iff, List.length_take]
      omega
    split
    · exact hwhole
    · exact List.append_ne_nil_of_left_ne_nil hwhole _

/-- Every number has a text. -/
theorem text_ne_empty (x : Double) : x.text ≠ "" := by
  have hmagnitude : ∀ units, magnitudeText units ≠ [] := by
    intro units
    rw [magnitudeText]
    split
    · exact List.cons_ne_nil _ _
    · exact (shortest units).positional_ne_nil
  cases x with
  | nan => decide
  | infinity negative => cases negative <;> decide
  | finite negative units =>
    rw [text, Ne, String.ofList_eq_empty_iff]
    split
    · exact List.cons_ne_nil _ _
    · exact hmagnitude units

end FeatureQuery.Number.Double
