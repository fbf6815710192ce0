import FeatureQuery.Value

/-!
# Literals

A literal is what the text after an operator denotes, before and after it is bound to a property. A range
has two bounds; it is compared with as a whole, so it is no operand by itself.

## Main results

* `toValue?_isSome_iff`: exactly the literals that are not ranges are operands.
-/

namespace FeatureQuery

open FeatureQuery.Number (Double showInt64)
open FeatureQuery.Time (Instant)

/-- A literal of a query. -/
inductive Literal where
  /-- An integer; milestones are integers. -/
  | int (n : Int64)
  | float (x : Double)
  | instant (t : Instant)
  /-- The code of a named value of an enumeration. -/
  | code (n : Int64)
  /-- Anything else, compared as it stands. -/
  | text (s : String)
  /-- All values from one bound to another, bounds included. -/
  | range (low high : Literal)
  deriving DecidableEq

namespace Literal

/-- The literal is a range. -/
def isRange : Literal → Bool
  | range _ _ => true
  | _ => false

/-- The operand that a literal compares with. -/
def toValue? : Literal → Option Value
  | int n | code n => some (.int n)
  | float x => some (.float x)
  | instant t => some (.instant t)
  | text s => some (.text s)
  | range _ _ => none

/-- The literals that are operands are those that are no ranges. -/
theorem toValue?_isSome_iff (l : Literal) : l.toValue?.isSome = !l.isRange := by
  cases l <;> rfl

/-- An operand is no range. -/
theorem isRange_of_toValue? {l : Literal} {operand : Value} (h : l.toValue? = some operand) : l.isRange = false := by
  cases l with
  | range low high => exact absurd h (by simp [toValue?])
  | _ => rfl

/-- The display of a literal: texts are quoted, the bounds of a range stand around two dots. -/
def display : Literal → String
  | int n | code n => showInt64 n
  | float x => x.text
  | instant t => t.text
  | text s => Text.quote s
  | range low high => low.display ++ ".." ++ high.display

end Literal

end FeatureQuery
