import FeatureQuery.Record.Basic

/-!
# Selection

What a store query answers over the records of one collection: the features of the records that pass its
filters, each as often as it has such records. With an order, a record is placed by its first value in
that order, records without a value are left out, and records with equal values keep their places.

## Main results

* `mem_select_of_unordered`: without an order, a feature is selected exactly if one of its records passes.
-/

namespace FeatureQuery

namespace StoreOrder

/-- The second value goes before the first. -/
def follows (order : StoreOrder) (a b : Value) : Bool :=
  a.order b == some (if order.descending then .lt else .gt)

/-- The value that goes before all others: the smallest, or the largest if the order is descending. -/
def firstOf? (order : StoreOrder) : List Value → Option Value
  | [] => none
  | value :: values => some (values.foldl (fun a b => if order.follows a b then b else a) value)

end StoreOrder

namespace Record

variable {ρ : Type} [Record ρ]

/-- The records that pass the filters, with the value that each is placed by. -/
def keyed (records : List ρ) (filters : List Filter) (order : StoreOrder) : List (Value × Int64) :=
  (records.filter fun record => passes record filters).filterMap fun record =>
    (order.firstOf? (values record order.property)).map fun key => (key, featureId record)

/-- The features that a query selects from the records of its collection. -/
def select (records : List ρ) (query : StoreQuery) : List Int64 :=
  match query.order with
  | none => (records.filter fun record => passes record query.filters).map featureId
  | some order =>
    ((keyed records query.filters order).mergeSort fun a b => !order.follows a.1 b.1).map (·.2)

/-- Without an order a query selects what the records belong to that pass all its filters. -/
theorem mem_select_of_unordered {records : List ρ} {query : StoreQuery} {id : Int64}
    (h : query.order = none) :
    id ∈ select records query
      ↔ ∃ record ∈ records, passes record query.filters = true ∧ featureId record = id := by
  simp [select, h, and_assoc]

end Record

end FeatureQuery
