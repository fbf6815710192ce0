import FeatureQuery.Operator

/-!
# Terms

The units of a query: a test of a field or of the text of a feature, perhaps negated, perhaps the first
of a new alternative.

## Main results

* `Term.display_plain`: a term without marks is displayed as its test.
-/

namespace FeatureQuery

/-- What a term asks of a feature. -/
inductive Test where
  /-- A field's value compares so with a value, which stands as typed, with its quotes. -/
  | field (name : String) (op : Operator) (raw : String)
  /-- The words of a text occur in the feature's texts. -/
  | text (content : String)
  deriving DecidableEq

/-- How a test is displayed. -/
def Test.display : Test → String
  | .field name op raw => name ++ op.symbol ++ raw
  | .text content => content

/-- One unit of a query. -/
structure Term where
  negated : Bool
  /-- The term opens a new alternative. -/
  startsGroup : Bool
  test : Test
  deriving DecidableEq

namespace Term

/-- A term without marks. -/
def plain (test : Test) : Term :=
  ⟨false, false, test⟩

/-- How a term is displayed. -/
def display (term : Term) : String :=
  (if term.startsGroup then "OR " else "") ++ (if term.negated then "-" else "") ++ term.test.display

/-- A plain term is displayed as its test. -/
theorem display_plain (test : Test) : (plain test).display = test.display := by
  simp [display, plain]

end Term

end FeatureQuery
