import FeatureQuery.Lookup
import FeatureQuery.Proofs.Ranking
import FeatureQuery.Proofs.Record.Kinds
import FeatureQuery.Proofs.Store.Reachable
import FeatureQuery.SortSpec

/-!
# Answers of the store

A valid query to a store whose collections are online is answered by selection, so a plan is answered by the
union of what its queries select. Without an order a feature is selected through each of its records on its
own; with an order the records of different features do not disturb each other either, because the values
that place them are all of one kind and thus totally ordered.

## Main results

* `Store.Online.exists_fetchAll`: the answer to a plan has what some query of it selects.
* `StoreQuery.Valid`: the queries of plans, of callers' fields and of sort keys all have it.
* `Record.filter_select`: a part of the features is selected as from their records alone.
-/

namespace FeatureQuery

/-! ### Valid queries -/

/-- All properties that a query mentions are of its collection. -/
def StoreQuery.Valid (query : StoreQuery) : Prop :=
  ∀ p ∈ query.properties, p.collection = query.collection

namespace StoreQuery

theorem valid_all (collection : Collection) : (all collection).Valid := by
  intro p hp
  simp [all, properties] at hp

/-- A filter on a property of the collection keeps a query valid. -/
theorem Valid.filter {query : StoreQuery} (h : query.Valid) {filter : Filter}
    (hfilter : filter.property.collection = query.collection) : (query.filter filter).Valid := by
  intro p hp
  simp only [properties, StoreQuery.filter, List.map_append, List.map_cons, List.map_nil,
    List.mem_append, List.mem_singleton] at hp
  rcases hp with (hp | rfl) | hp
  · exact h p (List.mem_append_left _ hp)
  · exact hfilter
  · exact h p (List.mem_append_right _ hp)

/-- An order by a property of the collection keeps a query valid. -/
theorem Valid.orderBy {query : StoreQuery} (h : query.Valid) {p : Property}
    (hp : p.collection = query.collection) (descending : Bool) :
    (query.orderBy p descending).Valid := by
  intro q hq
  simp only [properties, StoreQuery.orderBy, Option.map_some, Option.toList_some, List.mem_append,
    List.mem_singleton] at hq
  rcases hq with hq | rfl
  · exact h q (List.mem_append_left _ hq)
  · exact hp

end StoreQuery

/-- The records that a field is found on are of the collection of its property. -/
theorem Field.collection_base (field : Field) :
    field.binding.property.collection = field.binding.base.collection := by
  cases field <;> rfl

/-- The query for all records that a field is found on is valid. -/
theorem Field.valid_base (field : Field) : field.binding.base.Valid := by
  rw [Binding.base]
  split
  · exact StoreQuery.valid_all _
  · exact (StoreQuery.valid_all _).filter rfl

/-- One comparison with the values of a field is a valid query. -/
theorem Field.valid_comparison (field : Field) (op : Operator) (operand : Value) :
    (field.binding.comparison op operand).Valid :=
  field.valid_base.filter field.collection_base

/-- The queries for a test of a field are valid. -/
theorem Field.valid_queriesFor (field : Field) (op : Operator) (literals : List Literal) :
    ∀ query ∈ field.binding.queriesFor op literals, query.Valid := by
  intro query hquery
  rw [Binding.queriesFor.eq_def] at hquery
  split at hquery
  · split at hquery
    · rw [List.mem_singleton.1 hquery]
      exact (field.valid_comparison _ _).filter field.collection_base
    · exact absurd hquery List.not_mem_nil
  · obtain ⟨operand, -, rfl⟩ := Option.map_eq_some_iff.1 (Option.mem_toList.1 hquery)
    exact field.valid_comparison _ _
  · dsimp only at hquery
    split at hquery
    · rw [List.mem_singleton.1 hquery]
      exact field.valid_base.filter field.collection_base
    · obtain ⟨operand, -, rfl⟩ := List.mem_map.1 hquery
      exact field.valid_comparison _ _

/-- The query for the order of a sort key is valid. -/
theorem SortKey.valid_orderQuery (key : SortKey) (descending : Bool) :
    (key.orderQuery descending).Valid := by
  have hgates : ∀ states, (gatesIn states).Valid := fun _ => (StoreQuery.valid_all .gate).filter rfl
  cases key with
  | field f => exact f.valid_base.orderBy f.collection_base descending
  | requestedOn => exact (hgates Gate.pendingStates).orderBy rfl descending
  | reviewedOn => exact (hgates Gate.finalStates).orderBy rfl descending

/-! ### Answers of an online store -/

namespace Store

/-- A store that is online answers a valid query by selection. -/
theorem Online.fetchIds {store : Store} (online : store.Online) {query : StoreQuery}
    (valid : query.Valid) : store.fetchIds query = .ok (store.select query) :=
  fetchIds_eq_ok (StoreQuery.misplaced?_eq_none_iff.2 valid) (online query.collection)

/-- A store that is online answers a search from its index. -/
theorem Online.searchText {store : Store} (online : store.Online) (text : String) :
    store.searchText text = .ok (store.index.search (indexWords text)).toList := by
  have hcheck : store.checkOnline .feature = .ok () := by
    simp [checkOnline, online .feature]
  rw [Store.searchText, hcheck]
  rfl

/-- A store that is online answers several valid queries with what some of them select. -/
theorem Online.exists_fetchAll {store : Store} (online : store.Online) {queries : List StoreQuery}
    (valid : ∀ query ∈ queries, query.Valid) :
    ∃ ids, store.fetchAll queries = .ok ids ∧
      ∀ id, id ∈ ids ↔ ∃ query ∈ queries, id ∈ store.select query := by
  induction queries with
  | nil => exact ⟨.empty, rfl, fun id => by simp⟩
  | cons query queries ih =>
      obtain ⟨rest, hrest, hmem⟩ := ih fun q hq => valid q (List.mem_cons_of_mem _ hq)
      refine ⟨(IdSet.ofList (store.select query)).union rest, ?_, ?_⟩
      · rw [fetchAll, online.fetchIds (valid query List.mem_cons_self), hrest]
        rfl
      · intro id
        rw [IdSet.mem_union, IdSet.mem_ofList, hmem]
        simp only [List.mem_cons, exists_eq_or_imp]

/-- The answer of an online store to a plan of valid queries. -/
theorem Online.exists_lookup {store : Store} (online : store.Online) (plan : Plan) (label : String)
    (valid : ∀ query ∈ plan.queries, query.Valid) :
    ∃ ids, store.lookup plan label = pure ⟨ids, plan.complemented⟩ ∧
      ∀ id, id ∈ ids ↔ ∃ query ∈ plan.queries, id ∈ store.select query := by
  obtain ⟨ids, hfetch, hmem⟩ := online.exists_fetchAll valid
  exact ⟨ids, lookup_eq_pure label hfetch, hmem⟩

/-- All features of a store whose features are online can be loaded. -/
theorem mem_allIds {store : Store} (online : .feature ∉ store.offline) {id : Int64} :
    id ∈ store.allIds.value ↔ ∃ feature ∈ store.features, feature.id = id := by
  have hselect : store.select (.all .feature) = Record.select store.features (.all .feature) := rfl
  rw [allIds, fetchIds_eq_ok rfl online, hselect]
  dsimp only [Noted.value_pure]
  rw [IdSet.mem_ofList, Record.mem_select_of_unordered rfl]
  simp only [Record.passes, StoreQuery.all, List.all_nil, true_and]
  rfl

end Store

/-! ### Selecting from a part of the records -/

namespace StoreOrder

/-- The value that goes before the others is one of them. -/
theorem mem_of_firstOf? {order : StoreOrder} {values : List Value} {v : Value}
    (h : order.firstOf? values = some v) : v ∈ values := by
  have key : ∀ (rest : List Value) (w : Value),
      rest.foldl (fun a b => if order.follows a b then b else a) w ∈ w :: rest := by
    intro rest
    induction rest with
    | nil => exact fun w => List.mem_singleton_self w
    | cons x rest ih =>
        intro w
        rw [List.foldl_cons]
        rcases List.mem_cons.1 (ih (if order.follows w x then x else w)) with heq | hmem
        · rw [heq]
          split
          · exact List.mem_cons_of_mem _ List.mem_cons_self
          · exact List.mem_cons_self
        · exact List.mem_cons_of_mem _ (List.mem_cons_of_mem _ hmem)
  cases values with
  | nil => exact absurd h (by simp [firstOf?])
  | cons w rest =>
      rw [firstOf?, Option.some.injEq] at h
      rw [← h]
      exact key rest w

variable {a b c : Value}

/-- Values of one kind stand in place if the one is not greater than the other, or not smaller if the order
is descending. -/
theorem not_follows_iff {order : StoreOrder} {o : Ordering} (h : a.order b = some o) :
    (!order.follows a b) = true ↔ (if order.descending then o.swap else o).isLE = true := by
  rw [follows, h]
  cases order.descending <;> cases o <;> decide

/-- Standing in place is transitive among values of one kind. -/
theorem not_follows_trans (order : StoreOrder) (hab : a.kind = b.kind) (hbc : b.kind = c.kind)
    (hfloat : a.kind ≠ .float) (h₁ : (!order.follows a b) = true) (h₂ : (!order.follows b c) = true) :
    (!order.follows a c) = true := by
  obtain ⟨o₁, hab₁, hba₁⟩ := Value.order_of_kind_eq hab hfloat
  obtain ⟨o₂, hbc₂, hcb₂⟩ := Value.order_of_kind_eq hbc (hab ▸ hfloat)
  obtain ⟨o₃, hac₃, hca₃⟩ := Value.order_of_kind_eq (hab.trans hbc) hfloat
  rw [not_follows_iff hab₁] at h₁
  rw [not_follows_iff hbc₂] at h₂
  rw [not_follows_iff hac₃]
  by_cases hd : order.descending = true
  · rw [if_pos hd] at h₁ h₂ ⊢
    obtain ⟨o, ho, hle⟩ := Value.order_trans hbc.symm hab.symm (by rwa [← hbc, ← hab]) hcb₂ hba₁ h₂ h₁
    rwa [Option.some.inj (hca₃.symm.trans ho)]
  · rw [if_neg hd] at h₁ h₂ ⊢
    obtain ⟨o, ho, hle⟩ := Value.order_trans hab hbc hfloat hab₁ hbc₂ h₁ h₂
    rwa [Option.some.inj (hac₃.symm.trans ho)]

/-- Of two values of one kind one stands in place before the other. -/
theorem not_follows_total (order : StoreOrder) (hab : a.kind = b.kind) (hfloat : a.kind ≠ .float) :
    ((!order.follows a b) || (!order.follows b a)) = true := by
  obtain ⟨o, hab₁, hba₁⟩ := Value.order_of_kind_eq hab hfloat
  rw [follows, follows, hab₁, hba₁]
  cases order.descending <;> cases o <;> decide

end StoreOrder

namespace Record

variable {ρ : Type} [Record ρ]

/-- The records of a part of the features are placed by the same values. -/
theorem filter_keyed (records : List ρ) (filters : List Filter) (order : StoreOrder)
    (p : Int64 → Bool) :
    (keyed records filters order).filter (fun entry => p entry.2)
      = keyed (records.filter fun record => p (featureId record)) filters order := by
  rw [keyed, keyed, List.filter_filterMap, List.filter_comm,
    List.filterMap_filter (p := fun record => p (featureId record))]
  refine List.filterMap_congr fun record _ => ?_
  cases order.firstOf? (values record order.property) with
  | none => simp
  | some key => simp [Option.filter]

variable [LawfulRecord ρ]

/-- The values that records are placed by are of the kind of the property. -/
theorem kind_of_mem_keyed {records : List ρ} {filters : List Filter} {order : StoreOrder}
    {entry : Value × Int64} (h : entry ∈ keyed records filters order) :
    entry.1.kind = order.property.kind := by
  obtain ⟨record, -, hrecord⟩ := List.mem_filterMap.1 h
  obtain ⟨key, hkey, rfl⟩ := Option.map_eq_some_iff.1 hrecord
  exact (LawfulRecord.describes record order.property).kind_of_mem key (StoreOrder.mem_of_firstOf? hkey)

/-- **Selecting part of the features.** What a query selects of some features is what it selects from the
records of those features alone. -/
theorem filter_select (records : List ρ) (query : StoreQuery) (p : Int64 → Bool) :
    (select records query).filter p
      = select (records.filter fun record => p (featureId record)) query := by
  rw [select, select]
  cases query.order with
  | none =>
      rw [List.filter_map, List.filter_filter, List.filter_filter]
      refine congrArg (List.map featureId) (List.filter_congr fun record _ => ?_)
      exact Bool.and_comm _ _
  | some order =>
      dsimp only
      have hkind : ∀ v : Value, v.kind = order.property.kind → v.kind ≠ .float := by
        intro v hv
        rw [hv]
        exact order.property.not_float
      rw [List.filter_map, ← filter_keyed]
      refine congrArg (List.map fun entry : Value × Int64 => entry.2) ?_
      refine filter_mergeSort_of_mem (fun entry => entry.1.kind = order.property.kind)
        (fun a b c ha hb hc h₁ h₂ => ?_) (fun a b ha hb => ?_) (fun entry => kind_of_mem_keyed) _
      · exact order.not_follows_trans (ha.trans hb.symm) (hb.trans hc.symm) (hkind a.1 ha) h₁ h₂
      · exact order.not_follows_total (ha.trans hb.symm) (hkind a.1 ha)

end Record

end FeatureQuery
