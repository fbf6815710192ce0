import FeatureQuery.Json.Fields
import FeatureQuery.Filter

/-!
# Records

A record belongs to one collection and to one feature, and carries values for the properties of its
collection. Filtering, ordering and joining see records through this view only.

## Main results

* `optionalValue_length_le`: a value that may be absent is carried at most once.
-/

namespace FeatureQuery

/-- The records of a collection. -/
class Record (ρ : Type) where
  /-- The collection of all these records. -/
  collection : Collection
  /-- The feature that a record belongs to. -/
  featureId : ρ → Int64
  /-- The values that a record carries for a property, none for a property of another collection. -/
  values : ρ → Property → List Value

namespace Record

/-- A record passes all the filters. -/
def passes {ρ : Type} [Record ρ] (record : ρ) (filters : List Filter) : Bool :=
  filters.all fun filter => filter.accepts (values record filter.property)

/-- The values of texts. -/
def textValues (texts : List String) : List Value :=
  texts.map .text

/-- The value of something that may be absent. -/
def optionalValue {α : Type} (toValue : α → Value) (x : Option α) : List Value :=
  (x.map toValue).toList

/-- A value that may be absent is carried at most once. -/
theorem optionalValue_length_le {α : Type} (toValue : α → Value) (x : Option α) :
    (optionalValue toValue x).length ≤ 1 := by
  cases x <;> simp [optionalValue]

end Record

end FeatureQuery
