import FeatureQuery.Combination
import FeatureQuery.Proofs.Store.Selection
import FeatureQuery.Ranking

/-!
# Stores with fewer records

A store can be cut down to the records of some of its collections, which are then all online. Two such stores say
what a store is like while collections are offline: the one without the records of these collections, and the one
with all records. A collection that is online is asked alike in all of them. One that is offline fails, where it
would have nothing to give if its records did not exist; so a sort order that cannot be looked up comes to the
same as one that no record has a value for.

## Main results

* `Store.Reachable.keeping`: the records of some collections of a reachable store make up a reachable store.
* `Store.fetchIds_keeping`, `Store.fetchIds_withoutOffline`: queries of collections that are kept, and of those
  that are offline.
* `Store.value_totalOrder_of_fails`, `Store.totalOrder_allOnline`, `Store.value_totalOrder_withoutOffline`: sort
  orders while collections are offline.
-/

namespace FeatureQuery

/-! ### Stores with fewer records -/

namespace Store

/-- The records of some of the collections, with all collections online. -/
def keeping (store : Store) (keep : Collection → Bool) : Store where
  features := if keep .feature then store.features else []
  stages := if keep .stage then store.stages else []
  gates := if keep .gate then store.gates else []
  stars := if keep .star then store.stars else []
  index := if keep .feature then store.index else .empty
  offline := []

/-- The collection can be asked. -/
def isOnline (store : Store) (collection : Collection) : Bool :=
  decide (collection ∉ store.offline)

/-- The store without the records of the collections that are offline, with all collections online. -/
def withoutOffline (store : Store) : Store :=
  store.keeping store.isOnline

/-- The store with all collections put back online. -/
def allOnline (store : Store) : Store :=
  { store with offline := [] }

/-- A store of some collections only is online. -/
theorem online_keeping (store : Store) (keep : Collection → Bool) : (store.keeping keep).Online :=
  fun _ => List.not_mem_nil

/-- **Step.** A change to a store changes the records of some collections if it is to one of these. -/
theorem keeping_change (store : Store) (keep : Collection → Bool) (change : Change) :
    (store.change change).keeping keep = store.keeping keep
      ∨ (store.change change).keeping keep = (store.keeping keep).change change := by
  cases change with
  | feature feature =>
      cases hkeep : keep .feature with
      | false => exact Or.inl (by simp [keeping, Store.change, insertFeature, hkeep])
      | true => exact Or.inr (by simp [keeping, Store.change, insertFeature, hkeep])
  | stage stage =>
      cases hkeep : keep .stage with
      | false => exact Or.inl (by simp [keeping, Store.change, insertStage, hkeep])
      | true => exact Or.inr (by simp [keeping, Store.change, insertStage, hkeep])
  | gate gate =>
      cases hkeep : keep .gate with
      | false => exact Or.inl (by simp [keeping, Store.change, insertGate, hkeep])
      | true => exact Or.inr (by simp [keeping, Store.change, insertGate, hkeep])
  | star star =>
      cases hkeep : keep .star with
      | false => exact Or.inl (by simp [keeping, Store.change, insertStar, hkeep])
      | true => exact Or.inr (by simp [keeping, Store.change, insertStar, hkeep])
  | offline collection offline => exact Or.inl rfl

/-- **Run.** The records of some collections of a reachable store make up a reachable store. -/
theorem Reachable.keeping {store : Store} (h : store.Reachable) (keep : Collection → Bool) :
    (store.keeping keep).Reachable := by
  induction h with
  | empty =>
      have hempty : Store.empty.keeping keep = .empty := by simp [Store.keeping, Store.empty]
      rw [hempty]
      exact .empty
  | @change store _ change ih =>
      rcases store.keeping_change keep change with hsame | hchanged
      · rwa [hsame]
      · rw [hchanged]
        exact ih.change change

variable {store : Store} {keep : Collection → Bool}

/-- A query of a collection whose records are kept selects what it selected. -/
theorem select_keeping {query : StoreQuery} (h : keep query.collection = true) :
    (store.keeping keep).select query = store.select query := by
  rw [select, select]
  cases hcollection : query.collection <;> rw [hcollection] at h <;> simp [keeping, h]

/-- Without records nothing is selected. -/
theorem select_nil {ρ : Type} [Record ρ] (query : StoreQuery) : Record.select ([] : List ρ) query = [] := by
  rw [Record.select]
  cases query.order with
  | none => rfl
  | some order => simp [Record.keyed]

/-- A query of a collection whose records are not kept selects nothing. -/
theorem select_keeping_of_not {query : StoreQuery} (h : keep query.collection = false) :
    (store.keeping keep).select query = [] := by
  rw [select]
  cases hcollection : query.collection <;> rw [hcollection] at h <;> simp [keeping, h, select_nil]

/-- A query of a collection that is online is answered from its records, whatever the others are. -/
theorem fetchIds_keeping {query : StoreQuery} (valid : query.Valid) (online : query.collection ∉ store.offline)
    (keep : Collection → Bool) (hkeep : keep query.collection = true) :
    (store.keeping keep).fetchIds query = store.fetchIds query := by
  rw [(store.online_keeping keep).fetchIds valid, select_keeping hkeep,
    fetchIds_eq_ok (StoreQuery.misplaced?_eq_none_iff.2 valid) online]

/-- A query of a collection that is offline fails. -/
theorem fetchIds_of_offline {query : StoreQuery} (valid : query.Valid)
    (offline : query.collection ∈ store.offline) :
    store.fetchIds query
      = .error (.unavailable backendName (query.collection.name ++ " collection is offline")) :=
  fetchIds_offline (StoreQuery.misplaced?_eq_none_iff.2 valid) offline

/-- A query of a collection that is offline would select nothing if its records did not exist. -/
theorem fetchIds_withoutOffline {query : StoreQuery} (valid : query.Valid)
    (offline : query.collection ∈ store.offline) : store.withoutOffline.fetchIds query = .ok [] := by
  have hdropped : store.isOnline query.collection = false := by simpa [isOnline] using offline
  rw [withoutOffline, (store.online_keeping _).fetchIds valid, select_keeping_of_not hdropped]

/-- Stores that answer the queries of a plan in the same way answer the plan in the same way. -/
theorem fetchAll_congr {store other : Store} {queries : List StoreQuery}
    (h : ∀ query ∈ queries, store.fetchIds query = other.fetchIds query) :
    store.fetchAll queries = other.fetchAll queries := by
  induction queries with
  | nil => rfl
  | cons query queries ih =>
      rw [fetchAll, fetchAll, h query List.mem_cons_self, ih fun q hq => h q (List.mem_cons_of_mem query hq)]

/-- Queries that select nothing select nothing together. -/
theorem fetchAll_of_nil {queries : List StoreQuery} (h : ∀ query ∈ queries, store.fetchIds query = .ok []) :
    store.fetchAll queries = .ok .empty := by
  induction queries with
  | nil => rfl
  | cons query queries ih =>
      rw [fetchAll, h query List.mem_cons_self, ih fun q hq => h q (List.mem_cons_of_mem query hq)]
      rfl

/-- While features are online, all of them are loaded. -/
theorem allIds_keeping (features : .feature ∉ store.offline) (keep : Collection → Bool)
    (hkeep : keep .feature = true) : (store.keeping keep).allIds = store.allIds := by
  have hfetch : (store.keeping keep).fetchIds (.all .feature) = store.fetchIds (.all .feature) :=
    fetchIds_keeping (StoreQuery.valid_all .feature) features keep hkeep
  rw [allIds, allIds, hfetch]

/-- A feature is found if features are kept. -/
theorem find?_keeping (store : Store) (hkeep : keep .feature = true) :
    (store.keeping keep).find? = store.find? := by
  have hfeatures : (store.keeping keep).features = store.features := if_pos hkeep
  funext id
  rw [find?, find?, hfeatures]

end Store

/-! ### Sort orders -/

namespace Store

/-- The order of a specification cannot be looked up. -/
def sortFails (store : Store) (spec : SortSpec) : Bool :=
  (SortKey.ofName? spec.key).any fun key =>
    (store.fetchIds (key.orderQuery spec.descending)).toOption.isNone

variable {store : Store} {spec : SortSpec}

/-- A sort order that cannot be looked up mentions no feature. -/
theorem value_totalOrder_of_fails (h : store.sortFails spec = true) : (store.totalOrder spec).value = [] := by
  rw [sortFails, Option.any_eq_true] at h
  obtain ⟨key, hkey, hnone⟩ := h
  rw [totalOrder, hkey]
  dsimp only
  cases hfetch : store.fetchIds (key.orderQuery spec.descending) with
  | ok order =>
      rw [hfetch] at hnone
      exact absurd hnone Bool.false_ne_true
  | error cause => rfl

/-- A sort order that can be looked up is the same as while all collections are online. -/
theorem totalOrder_allOnline (h : store.sortFails spec = false) :
    store.allOnline.totalOrder spec = store.totalOrder spec := by
  rw [totalOrder, totalOrder]
  cases hkey : SortKey.ofName? spec.key with
  | none => rfl
  | some key =>
      have hvalid := key.valid_orderQuery spec.descending
      have honline : (key.orderQuery spec.descending).collection ∉ store.offline := by
        intro hoffline
        rw [sortFails, hkey, Option.any_some, fetchIds_of_offline hvalid hoffline] at h
        exact absurd h (by simp [Except.toOption])
      have hfetch : store.allOnline.fetchIds (key.orderQuery spec.descending)
          = store.fetchIds (key.orderQuery spec.descending) :=
        fetchIds_keeping hvalid honline (fun _ => true) rfl
      dsimp only
      rw [hfetch]

/-- The order of a specification is that of the records that are online. -/
theorem value_totalOrder_withoutOffline (store : Store) (spec : SortSpec) :
    (store.withoutOffline.totalOrder spec).value = (store.totalOrder spec).value := by
  rw [totalOrder, totalOrder]
  cases SortKey.ofName? spec.key with
  | none => rfl
  | some key =>
      dsimp only
      have hvalid := key.valid_orderQuery spec.descending
      by_cases hoffline : (key.orderQuery spec.descending).collection ∈ store.offline
      · rw [fetchIds_withoutOffline hvalid hoffline, fetchIds_of_offline hvalid hoffline]
        rfl
      · have hfetch : store.withoutOffline.fetchIds (key.orderQuery spec.descending)
            = store.fetchIds (key.orderQuery spec.descending) :=
          fetchIds_keeping hvalid hoffline store.isOnline (decide_eq_true hoffline)
        rw [hfetch]

end Store

end FeatureQuery
