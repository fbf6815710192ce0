import FeatureQuery.Proofs.Page

/-!
# Negated tests

There are two ways to answer a negated test of a field: to take the features that the test holds of away from
all features, or to ask the store with the complementary operator. The second one is taken only where it comes
to the same. Elsewhere the queries are those of the test itself, and the taking away is left to others.

## Main results

* `Binding.exists_filters_of_mem_queriesFor`: the queries of a test only add filters to those of its field.
* `Field.plan_negated`: a complemented plan selects all features but those that the test selects, and any other
  plan of the negated test has the queries of the test.
-/

namespace FeatureQuery

/-- A query for a test adds some filters to the query for all records that the field is found on. -/
theorem Binding.exists_filters_of_mem_queriesFor {binding : Binding} {op : Operator} {literals : List Literal}
    {query : StoreQuery} (h : query ∈ binding.queriesFor op literals) :
    ∃ filters, query = { binding.base with filters := binding.base.filters ++ filters } := by
  rw [queriesFor.eq_def] at h
  split at h
  · next low high =>
      split at h
      · next low high _ _ =>
          rw [List.mem_singleton] at h
          refine ⟨[.compare binding.property .ge low, .compare binding.property .le high], ?_⟩
          rw [h, between, comparison, StoreQuery.filter, StoreQuery.filter, List.append_assoc]
          rfl
      · exact absurd h List.not_mem_nil
  · obtain ⟨operand, -, rfl⟩ := Option.map_eq_some_iff.1 (Option.mem_toList.1 h)
    exact ⟨_, rfl⟩
  · dsimp only at h
    split at h
    · rw [List.mem_singleton] at h
      exact ⟨_, h⟩
    · obtain ⟨operand, -, rfl⟩ := List.mem_map.1 h
      exact ⟨_, rfl⟩

/-- A test of a field that is found on the features themselves selects stored features only. -/
theorem Field.exists_of_select_primary {store : Store} {field : Field}
    (hprimary : field.binding.target = .primary) {op : Operator} {literals : List Literal} {query : StoreQuery}
    (hquery : query ∈ field.binding.queriesFor op literals) {id : Int64} (hid : id ∈ store.select query) :
    ∃ feature ∈ store.features, feature.id = id := by
  obtain ⟨filters, rfl⟩ := Binding.exists_filters_of_mem_queriesFor hquery
  have hbase : field.binding.base = .all .feature := by rw [Binding.base, hprimary]
  have hselect : store.select { field.binding.base with filters := field.binding.base.filters ++ filters }
      = Record.select store.features ⟨.feature, filters, none⟩ := by
    rw [hbase]
    rfl
  rw [hselect, Record.mem_select_of_unordered rfl] at hid
  obtain ⟨feature, hmem, -, heq⟩ := hid
  exact ⟨feature, hmem, heq⟩

/-- Where complements are allowed, the complementary operator selects all features but those that the operator
selects. -/
theorem Field.exists_select_complement_iff {store : Store} (consistent : store.Consistent) {field : Field}
    {literals : List Literal} (hsole : Literal.SoleRange literals)
    (hcan : field.binding.canComplement literals = true) (op : Operator) (id : Int64) :
    (∃ query ∈ field.binding.queriesFor op.complement literals, id ∈ store.select query)
      ↔ (∃ feature ∈ store.features, feature.id = id)
        ∧ ¬ ∃ query ∈ field.binding.queriesFor op literals, id ∈ store.select query := by
  obtain ⟨-, -, -, -, hprimary, -, -⟩ := Binding.exists_of_canComplement hcan
  have hstored : ∀ feature ∈ store.features,
      ((∃ query ∈ field.binding.queriesFor op.complement literals, feature.id ∈ store.select query)
        ↔ ¬ ∃ query ∈ field.binding.queriesFor op literals, feature.id ∈ store.select query) := by
    intro feature hmem
    rw [field.select_queriesFor_iff consistent hmem _ hsole,
      field.select_queriesFor_iff consistent hmem _ hsole, Field.complement_iff hcan op]
  constructor
  · rintro ⟨query, hquery, hid⟩
    obtain ⟨feature, hmem, rfl⟩ := Field.exists_of_select_primary hprimary hquery hid
    exact ⟨⟨feature, hmem, rfl⟩, (hstored feature hmem).1 ⟨query, hquery, hid⟩⟩
  · rintro ⟨⟨feature, hmem, rfl⟩, hnot⟩
    exact (hstored feature hmem).2 hnot

/-- The plan of a test of a field, or of the negated one. -/
def Field.planFor (field : Field) (context : Context) (op : Operator) (raw : String) (negated : Bool) : Plan :=
  field.binding.plan op (Store.literalsFor context field raw) negated

/-- A store that is online answers the plan with what some query of it selects. -/
theorem Field.exists_fetchAll_planFor {store : Store} (field : Field) (online : store.Online)
    (context : Context) (op : Operator) (raw : String) (negated : Bool) :
    ∃ ids, store.fetchAll (field.planFor context op raw negated).queries = .ok ids
      ∧ ∀ id, id ∈ ids ↔ ∃ query ∈ (field.planFor context op raw negated).queries, id ∈ store.select query :=
  online.exists_fetchAll (field.valid_queriesFor _ _)

/-- **Negated tests.** Over a store that is online, the plans of a test and of the negated one are answered. If
the latter is complemented, its answer has all features but those in the answer to the test. If it is not, it
has the same queries as the plan of the test. -/
theorem Field.plan_negated {store : Store} (reachable : store.Reachable) (online : store.Online)
    (context : Context) (field : Field) (op : Operator) (raw : String) :
    ∃ ids plainIds, store.fetchAll (field.planFor context op raw true).queries = .ok ids
      ∧ store.fetchAll (field.planFor context op raw false).queries = .ok plainIds
      ∧ ((field.planFor context op raw true).complemented = true →
          ids = (IdSet.ofList (store.features.map (·.id))).diff plainIds)
      ∧ ((field.planFor context op raw true).complemented = false →
          (field.planFor context op raw true).queries = (field.planFor context op raw false).queries) := by
  obtain ⟨ids, hids, hmem⟩ := field.exists_fetchAll_planFor online context op raw true
  obtain ⟨plainIds, hplainIds, hplainMem⟩ := field.exists_fetchAll_planFor online context op raw false
  refine ⟨ids, plainIds, hids, hplainIds, ?_, Binding.plan_not_negated⟩
  intro hcomplemented
  have hcan : field.binding.canComplement (Store.literalsFor context field raw) = true := hcomplemented
  have hqueries : (field.planFor context op raw true).queries
      = field.binding.queriesFor op.complement (Store.literalsFor context field raw) := by
    rw [planFor, Binding.plan, Bool.true_and, hcan]
    rfl
  refine IdSet.ext_mem fun id => ?_
  rw [hmem, hqueries, Field.exists_select_complement_iff reachable.consistent
    (Store.soleRange_literalsFor context field raw) hcan op id, IdSet.mem_diff, hplainMem, IdSet.mem_ofList,
    List.mem_map]
  rfl

/-- The features whose id is not at most 1 are asked for with the complementary operator. -/
theorem Field.plan_negated_id :
    (Field.id.planFor (.anonymousAt .epoch) .le "1" true).complemented = true
      ∧ ∃ ids plainIds,
        (Store.ofRecords [.ownedBy "ann" 1 false, .ownedBy "bob" 2 false] [] [] []).fetchAll
            (Field.id.planFor (.anonymousAt .epoch) .le "1" true).queries = .ok ids
          ∧ (Store.ofRecords [.ownedBy "ann" 1 false, .ownedBy "bob" 2 false] [] [] []).fetchAll
            (Field.id.planFor (.anonymousAt .epoch) .le "1" false).queries = .ok plainIds
          ∧ ((Field.id.planFor (.anonymousAt .epoch) .le "1" true).complemented = true →
              ids = (IdSet.ofList ((Store.ofRecords [.ownedBy "ann" 1 false, .ownedBy "bob" 2 false] [] []
                []).features.map (·.id))).diff plainIds)
          ∧ ((Field.id.planFor (.anonymousAt .epoch) .le "1" true).complemented = false →
              (Field.id.planFor (.anonymousAt .epoch) .le "1" true).queries
                = (Field.id.planFor (.anonymousAt .epoch) .le "1" false).queries) :=
  ⟨by decide +kernel, Field.plan_negated (Store.reachable_ofRecords _ _ _ _)
    (Store.online_ofRecords _ _ _ _) (.anonymousAt .epoch) .id .le "1"⟩

end FeatureQuery
