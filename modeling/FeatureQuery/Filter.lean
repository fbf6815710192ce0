import FeatureQuery.Operator
import FeatureQuery.Property

/-!
# Filters and store queries

A filter tests the values that a record carries for one property. A store query names a collection, the
filters that its records must all pass, and perhaps a property to order them by.

## Main results

* `Filter.accepts_iff`: a filter accepts when one of the values meets the condition.
* `StoreQuery.misplaced?_eq_none_iff`: a query is valid when every property in it is of its collection.
-/

namespace FeatureQuery

/-- The test that a filter puts to a value. -/
inductive Condition where
  /-- Comparison with one operand. -/
  | compare (op : Operator) (operand : Value)
  /-- Equality with one of several operands. -/
  | oneOf (operands : List Value)
  deriving DecidableEq

/-- The value meets the condition. A value that does not compare with an operand does not. -/
def Condition.holds : Condition → Value → Bool
  | .compare op operand, value => (value.order operand).any op.accepts
  | .oneOf operands, value => operands.any fun operand => value.order operand == some .eq

/-- A test of one property. -/
structure Filter where
  property : Property
  condition : Condition
  deriving DecidableEq

namespace Filter

/-- Comparison of a property with one operand. -/
def compare (property : Property) (op : Operator) (operand : Value) : Filter :=
  ⟨property, .compare op operand⟩

/-- Equality of a property with one of several operands. -/
def oneOf (property : Property) (operands : List Value) : Filter :=
  ⟨property, .oneOf operands⟩

/-- A record with these values for the property passes the filter. -/
def accepts (filter : Filter) (values : List Value) : Bool :=
  values.any filter.condition.holds

/-- A filter accepts the values of a record if one of them meets the condition. -/
theorem accepts_iff {filter : Filter} {values : List Value} :
    filter.accepts values = true ↔ ∃ value ∈ values, filter.condition.holds value = true := by
  simp [accepts]

end Filter

/-- The order that a store query asks for. -/
structure StoreOrder where
  property : Property
  descending : Bool
  deriving DecidableEq

/-- A query for the records of one collection. -/
structure StoreQuery where
  collection : Collection
  filters : List Filter
  order : Option StoreOrder
  deriving DecidableEq

namespace StoreQuery

/-- The query for all records of a collection. -/
def all (collection : Collection) : StoreQuery :=
  ⟨collection, [], none⟩

/-- The query with one more filter. -/
def filter (query : StoreQuery) (filter : Filter) : StoreQuery :=
  { query with filters := query.filters ++ [filter] }

/-- The query with its records in order of a property. -/
def orderBy (query : StoreQuery) (property : Property) (descending : Bool) : StoreQuery :=
  { query with order := some ⟨property, descending⟩ }

/-- The properties that the query mentions, that of the order last. -/
def properties (query : StoreQuery) : List Property :=
  query.filters.map (·.property) ++ (query.order.map (·.property)).toList

/-- The first property that is of another collection. -/
def misplaced? (query : StoreQuery) : Option Property :=
  query.properties.find? (·.collection ≠ query.collection)

/-- No property is misplaced exactly if all are of the collection of the query. -/
theorem misplaced?_eq_none_iff {query : StoreQuery} :
    query.misplaced? = none ↔ ∀ p ∈ query.properties, p.collection = query.collection := by
  simp [misplaced?]

end StoreQuery

end FeatureQuery
