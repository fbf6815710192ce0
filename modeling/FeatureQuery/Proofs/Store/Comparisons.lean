import FeatureQuery.Proofs.Store.Selection

/-!
# Comparisons of a store

A store compares values in two places: it looks for the value that a record is placed by among the record's own
values, and it sorts the records by these. All of them are values of one property, carried by records of one
collection. Since records keep what their properties promise, these values are of one kind, which is not float, so
every comparison has a result, and the results make a total preorder. What a sort would do with values that do not
compare makes no difference.

## Main results

* `Value.ordered_of_kind`: values of one kind other than float are in a total preorder.
* `Store.kind_of_mem_carried`: the values that the records of a collection carry for a property are of its kind.
* `Store.records_compare`: what records promise, and what follows for the comparisons of a store.
-/

namespace FeatureQuery

/-! ### Total preorders -/

/-- All comparisons among the values have a result, and the results make a total preorder. -/
structure Value.Ordered (values : List Value) : Prop where
  refl : ∀ v ∈ values, v.order v = some .eq
  /-- The opposite result the other way round; so one of the two values is at most the other. -/
  swap : ∀ v ∈ values, ∀ w ∈ values, ∃ o, v.order w = some o ∧ w.order v = some o.swap
  trans : ∀ v ∈ values, ∀ w ∈ values, ∀ u ∈ values, ∀ o₁ o₂, v.order w = some o₁ → w.order u = some o₂ →
    o₁.isLE = true → o₂.isLE = true → ∃ o, v.order u = some o ∧ o.isLE = true

/-- Values of one kind other than float are in a total preorder. -/
theorem Value.ordered_of_kind {values : List Value} {kind : ValueKind} (hfloat : kind ≠ .float)
    (hkind : ∀ v ∈ values, v.kind = kind) : Value.Ordered values where
  refl v hv := (order_eq_iff rfl (hkind v hv ▸ hfloat)).2 rfl
  swap v hv w hw := order_of_kind_eq ((hkind v hv).trans (hkind w hw).symm) (hkind v hv ▸ hfloat)
  trans v hv w hw u hu _ _ hvw hwu :=
    order_trans ((hkind v hv).trans (hkind w hw).symm) ((hkind w hw).trans (hkind u hu).symm) (hkind v hv ▸ hfloat)
      hvw hwu

/-- How two values stand in a direction, where values that do not compare stand in some given way. -/
def StoreOrder.compareOr (order : StoreOrder) (fallback : Ordering) (a b : Value) : Ordering :=
  let o := (a.order b).getD fallback
  if order.descending then o.swap else o

/-- Of values that compare, what stands for those that do not is not asked for. -/
theorem StoreOrder.isLE_compareOr {order : StoreOrder} {a b : Value} {o : Ordering} (h : a.order b = some o)
    (fallback : Ordering) : (order.compareOr fallback a b).isLE = !order.follows a b := by
  rw [Bool.eq_iff_iff, not_follows_iff h, compareOr, h, Option.getD_some]

/-! ### The records of a collection -/

namespace Record

variable {ρ : Type} [Record ρ]

/-- A record is placed by one of its values. -/
theorem mem_of_mem_keyed {records : List ρ} {filters : List Filter} {order : StoreOrder} {entry : Value × Int64}
    (h : entry ∈ keyed records filters order) : entry.1 ∈ records.flatMap (values · order.property) := by
  obtain ⟨record, hrecord, hkeyed⟩ := List.mem_filterMap.1 h
  obtain ⟨key, hkey, rfl⟩ := Option.map_eq_some_iff.1 hkeyed
  exact List.mem_flatMap.2 ⟨record, (List.mem_filter.1 hrecord).1, StoreOrder.mem_of_firstOf? hkey⟩

/-- The values that lawful records carry for a property are of its kind. -/
theorem kind_of_mem_flatMap [LawfulRecord ρ] {records : List ρ} {p : Property} {v : Value}
    (h : v ∈ records.flatMap (values · p)) : v.kind = p.kind := by
  obtain ⟨record, -, hv⟩ := List.mem_flatMap.1 h
  exact (LawfulRecord.describes record p).kind_of_mem v hv

end Record

namespace Store

/-- The values that the records of a collection carry for a property. -/
def carried (store : Store) (p : Property) : Collection → List Value
  | .feature => store.features.flatMap (Record.values · p)
  | .stage => store.stages.flatMap (Record.values · p)
  | .gate => store.gates.flatMap (Record.values · p)
  | .star => store.stars.flatMap (Record.values · p)

/-- The records of a collection that pass the filters, with the value that each is placed by. -/
def keyed (store : Store) (filters : List Filter) (order : StoreOrder) : Collection → List (Value × Int64)
  | .feature => Record.keyed store.features filters order
  | .stage => Record.keyed store.stages filters order
  | .gate => Record.keyed store.gates filters order
  | .star => Record.keyed store.stars filters order

variable {store : Store} {collection : Collection}

/-- What records carry for a property is of its kind. -/
theorem kind_of_mem_carried {p : Property} {v : Value} (h : v ∈ store.carried p collection) : v.kind = p.kind := by
  cases collection with
  | feature => exact Record.kind_of_mem_flatMap h
  | stage => exact Record.kind_of_mem_flatMap h
  | gate => exact Record.kind_of_mem_flatMap h
  | star => exact Record.kind_of_mem_flatMap h

/-- Records are ordered by values that they carry. -/
theorem mem_carried_of_mem_keyed {filters : List Filter} {order : StoreOrder} {entry : Value × Int64}
    (h : entry ∈ store.keyed filters order collection) : entry.1 ∈ store.carried order.property collection := by
  cases collection with
  | feature => exact Record.mem_of_mem_keyed h
  | stage => exact Record.mem_of_mem_keyed h
  | gate => exact Record.mem_of_mem_keyed h
  | star => exact Record.mem_of_mem_keyed h

/-- The values that the records of a collection carry for a property are in a total preorder. -/
theorem ordered_carried (store : Store) (p : Property) (collection : Collection) :
    Value.Ordered (store.carried p collection) :=
  Value.ordered_of_kind p.not_float fun _ => kind_of_mem_carried

/-- A query with an order selects the features of its records, sorted by the values that they are placed by. -/
theorem select_ordered (store : Store) (filters : List Filter) (order : StoreOrder) (collection : Collection) :
    store.select ⟨collection, filters, some order⟩
      = ((store.keyed filters order collection).mergeSort fun a b => !order.follows a.1 b.1).map (·.2) := by
  cases collection with
  | _ => rfl

/-- The sort never asks how values stand that do not compare. -/
theorem select_compareOr (store : Store) (filters : List Filter) (order : StoreOrder) (collection : Collection)
    (fallback : Ordering) :
    store.select ⟨collection, filters, some order⟩
      = ((store.keyed filters order collection).mergeSort fun a b =>
          (order.compareOr fallback a.1 b.1).isLE).map (·.2) := by
  have hsort := List.map_mergeSort (f := id) (l := store.keyed filters order collection)
    (r := fun a b => !order.follows a.1 b.1) (s := fun a b => (order.compareOr fallback a.1 b.1).isLE)
    fun a ha b hb => by
      obtain ⟨o, ho, -⟩ := (store.ordered_carried order.property collection).swap _ (mem_carried_of_mem_keyed ha) _
        (mem_carried_of_mem_keyed hb)
      exact (StoreOrder.isLE_compareOr ho fallback).symm
  rw [List.map_id, List.map_id] at hsort
  rw [select_ordered, hsort]

/-- **Comparisons.** Every record carries for every property what the property promises: nothing if it is of another
collection, else values of its kind, exactly one of a required property and at most one of an optional one. So the
values that a store compares for the property of an order, those of the records of a collection among which are all
that records are placed by, are in a total preorder, and what a sort does with values that do not compare makes no
difference. -/
theorem records_compare :
    ((∀ (feature : Feature) p, Property.Describes p .feature (Record.values feature p))
        ∧ (∀ (stage : Stage) p, Property.Describes p .stage (Record.values stage p))
        ∧ (∀ (gate : Gate) p, Property.Describes p .gate (Record.values gate p))
        ∧ ∀ (star : Star) p, Property.Describes p .star (Record.values star p))
      ∧ ∀ (store : Store) (collection : Collection) (order : StoreOrder),
        Value.Ordered (store.carried order.property collection)
          ∧ ∀ filters, (∀ entry ∈ store.keyed filters order collection,
              entry.1 ∈ store.carried order.property collection)
            ∧ ∀ fallback, store.select ⟨collection, filters, some order⟩
              = ((store.keyed filters order collection).mergeSort fun a b =>
                  (order.compareOr fallback a.1 b.1).isLE).map (·.2) := by
  refine ⟨⟨LawfulRecord.describes, LawfulRecord.describes, LawfulRecord.describes, LawfulRecord.describes⟩, ?_⟩
  intro store collection order
  refine ⟨store.ordered_carried order.property collection, fun filters => ⟨?placed, ?sorted⟩⟩
  case placed => exact fun entry hentry => mem_carried_of_mem_keyed hentry
  case sorted => exact fun fallback => store.select_compareOr filters order collection fallback

/-- The feature ids of two stars compare, and the stars are placed by them. -/
theorem records_compare_stars :
    let store := ofRecords [] [] [] [⟨"ann@example.org", 2, true⟩, ⟨"ann@example.org", 1, false⟩]
    (.int 2 ∈ store.carried .starFeatureId .star ∧ .int 1 ∈ store.carried .starFeatureId .star
        ∧ (.int 1, 1) ∈ store.keyed [] ⟨.starFeatureId, true⟩ .star)
      ∧ (∃ o, (Value.int 2).order (.int 1) = some o ∧ (Value.int 1).order (.int 2) = some o.swap)
      ∧ store.select ⟨.star, [], some ⟨.starFeatureId, true⟩⟩
        = ((store.keyed [] ⟨.starFeatureId, true⟩ .star).mergeSort fun a b =>
            (StoreOrder.compareOr ⟨.starFeatureId, true⟩ .lt a.1 b.1).isLE).map (·.2) := by
  intro store
  obtain ⟨hordered, hselected⟩ := records_compare.2 store .star ⟨.starFeatureId, true⟩
  have hcarried : .int 2 ∈ store.carried .starFeatureId .star ∧ .int 1 ∈ store.carried .starFeatureId .star := by
    decide
  exact ⟨⟨hcarried.1, hcarried.2, by decide⟩, hordered.swap _ hcarried.1 _ hcarried.2, (hselected []).2 .lt⟩

end Store

end FeatureQuery
