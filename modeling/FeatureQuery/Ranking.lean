import FeatureQuery.Lookup
import FeatureQuery.SortSpec

/-!
# Ranking

Matches are put in order in two steps. The store lists the features that have a value for the sort key, in
its order; the matches are then placed by where that list first mentions them, and those that it does not
mention follow in ascending order.

## Main results

* `perm_rank`: ranking loses no id and adds none.
* `mem_rank`: the ranked ids are those of the set.
* `totalOrder_unknown`: nothing is mentioned for an unknown key.
-/

namespace FeatureQuery

/-- The members of a set by where a list first mentions them; the others follow in ascending order. -/
def IdSet.rank (ids : IdSet) (order : List Int64) : List Int64 :=
  ids.toList.mergeSort fun a b => decide (order.idxOf a ≤ order.idxOf b)

/-- Ranking changes the order of the ids only. -/
theorem perm_rank (ids : IdSet) (order : List Int64) : (ids.rank order).Perm ids.toList :=
  List.mergeSort_perm _ _

/-- So the same ids are ranked as were found. -/
theorem mem_rank {ids : IdSet} {order : List Int64} {id : Int64} : id ∈ ids.rank order ↔ id ∈ ids :=
  (perm_rank ids order).mem_iff

/-- The features that have a value for the key of a specification, in its order. There are none for an
unknown key, or if the lookup fails. -/
def Store.totalOrder (store : Store) (spec : SortSpec) : Noted (List Int64) :=
  match SortKey.ofName? spec.key with
  | none => .warn (.unknownSortKey spec.display) []
  | some key =>
    match store.fetchIds (key.orderQuery spec.descending) with
    | .ok order => pure order
    | .error cause => .warn (.sortFailed backendName spec.display cause) []

/-- Under an unknown key there is no order, and this is noted. -/
theorem totalOrder_unknown {store : Store} {spec : SortSpec} (h : SortKey.ofName? spec.key = none) :
    store.totalOrder spec = .warn (.unknownSortKey spec.display) [] := by
  simp [Store.totalOrder, h]

/-- The members of a set in the order of a specification. -/
def Store.sort (store : Store) (ids : IdSet) (spec : SortSpec) : Noted (List Int64) :=
  ids.rank <$> store.totalOrder spec

end FeatureQuery
