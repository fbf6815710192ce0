import FeatureQuery.Proofs.Page

/-!
# Hidden features leave no trace

Two runs of one request are compared: on a store, and on a smaller one that lacks some of the features which
the request hides, perhaps with their stages, gates and stars. Hidden features take part in every lookup, in
the set of all features and in the order, until the page is made; nothing of that is left on the page.

The features that are shown are the same because truth is local to a feature. They stand in the same order
because a store query places each record on its own, so the orders agree once the ids that are gone are left
out of them, and ranking never looks at those.

## Main results

* `Store.Lacks`: a store lacks some features of another one and is otherwise the same.
* `Store.Lacks.filter_select`: a query selects the same of what is left, in the same order.
* `Engine.run_of_lacks`: removing hidden features does not change the page.
-/

namespace FeatureQuery

/-! ### Smaller stores -/

/-- A store lacks some features of another one. Their stages, gates and stars may be gone or still there; all
other records are the same, in the same order. -/
structure Store.Lacks (small store : Store) (gone : Int64 → Bool) : Prop where
  features : small.features = store.features.filter fun feature => !gone feature.id
  stages : (small.stages.filter fun stage => !gone stage.featureId)
    = store.stages.filter fun stage => !gone stage.featureId
  gates : (small.gates.filter fun gate => !gone gate.featureId)
    = store.gates.filter fun gate => !gone gate.featureId
  stars : (small.stars.filter fun star => !gone star.featureId)
    = store.stars.filter fun star => !gone star.featureId

namespace Store

/-- A store without some features, and, if so asked, without their stages, gates and stars. -/
def without (store : Store) (gone : Int64 → Bool) (withRecords : Bool) : Store :=
  .ofRecords (store.features.filter fun feature => !gone feature.id)
    (store.stages.filter fun stage => !(withRecords && gone stage.featureId))
    (store.gates.filter fun gate => !(withRecords && gone gate.featureId))
    (store.stars.filter fun star => !(withRecords && gone star.featureId))

/-- The store without some features lacks exactly those. -/
theorem Consistent.lacks_without {store : Store} (h : store.Consistent) (gone : Int64 → Bool)
    (withRecords : Bool) : (store.without gone withRecords).Lacks store gone := by
  have hrest : ∀ {ρ : Type} (featureId : ρ → Int64) (records : List ρ),
      (records.filter fun record => !(withRecords && gone (featureId record))).filter
          (fun record => !gone (featureId record))
        = records.filter fun record => !gone (featureId record) := by
    intro ρ featureId records
    rw [List.filter_filter]
    refine List.filter_congr fun record _ => ?_
    cases gone (featureId record) <;> simp
  refine ⟨?_, ?_, ?_, ?_⟩
  · exact features_ofRecords _ _ _ (h.distinct.sublist (List.filter_sublist.map Feature.id))
  · rw [without, stages_ofRecords]
    exact hrest Stage.featureId store.stages
  · rw [without, gates_ofRecords]
    exact hrest Gate.featureId store.gates
  · rw [without, stars_ofRecords]
    exact hrest Star.featureId store.stars

namespace Lacks

variable {small store : Store} {gone : Int64 → Bool}

/-- A feature of the smaller store is one of the other store that is not gone. -/
theorem mem_features_iff (h : small.Lacks store gone) {feature : Feature} :
    feature ∈ small.features ↔ feature ∈ store.features ∧ gone feature.id = false := by
  rw [h.features, List.mem_filter]
  simp

/-- The stores have the same records of a feature that is not gone. -/
theorem sameAbout (h : small.Lacks store gone) {feature : Feature} (hkept : gone feature.id = false) :
    store.SameAbout small feature := by
  have key : ∀ {ρ : Type} (featureId : ρ → Int64) {records others : List ρ},
      (others.filter fun record => !gone (featureId record))
          = records.filter (fun record => !gone (featureId record)) →
        records.filter (fun record => featureId record = feature.id)
          = others.filter fun record => featureId record = feature.id := by
    intro ρ featureId records others heq
    have hpart : ∀ l : List ρ, (l.filter fun record => !gone (featureId record)).filter
        (fun record => featureId record = feature.id)
        = l.filter fun record => featureId record = feature.id := by
      intro l
      rw [List.filter_filter]
      refine List.filter_congr fun record _ => ?_
      by_cases hid : featureId record = feature.id
      · simp [hid, hkept]
      · simp [hid]
    rw [← hpart records, ← hpart others, heq]
  exact ⟨key Stage.featureId h.stages, key Gate.featureId h.gates, key Star.featureId h.stars⟩

/-- **Selection.** Of the features that are not gone, a query selects the same from both stores, in the same
order. -/
theorem filter_select (h : small.Lacks store gone) (query : StoreQuery) :
    ((small.select query).filter fun id => !gone id)
      = (store.select query).filter fun id => !gone id := by
  rw [select, select]
  cases query.collection with
  | feature =>
      have hfeatures : (small.features.filter fun feature => !gone feature.id)
          = store.features.filter fun feature => !gone feature.id := by
        rw [h.features, List.filter_filter]
        simp only [Bool.and_self]
      rw [Record.filter_select, Record.filter_select]
      exact congrArg (Record.select · query) hfeatures
  | stage =>
      rw [Record.filter_select, Record.filter_select]
      exact congrArg (Record.select · query) h.stages
  | gate =>
      rw [Record.filter_select, Record.filter_select]
      exact congrArg (Record.select · query) h.gates
  | star =>
      rw [Record.filter_select, Record.filter_select]
      exact congrArg (Record.select · query) h.stars

/-- The orders of both stores are the same as far as the features go that are not gone. -/
theorem filter_totalOrder (h : small.Lacks store gone) (online : store.Online)
    (onlineSmall : small.Online) (spec : SortSpec) :
    ((small.totalOrder spec).value.filter fun id => !gone id)
      = (store.totalOrder spec).value.filter fun id => !gone id := by
  rw [totalOrder, totalOrder]
  cases SortKey.ofName? spec.key with
  | none => rfl
  | some key =>
      have hvalid := key.valid_orderQuery spec.descending
      dsimp only
      rw [online.fetchIds hvalid, onlineSmall.fetchIds hvalid]
      exact h.filter_select _

/-- A page of features that are not gone is the same page of either store. -/
theorem pageOf_eq (h : small.Lacks store gone) (consistent : store.Consistent)
    (consistentSmall : small.Consistent) (online : store.Online) (onlineSmall : small.Online)
    {shown : IdSet} (hshown : ∀ id ∈ shown, ∃ feature ∈ small.features, feature.id = id)
    (spec : SortSpec) (window : Window) (namesOnly : Bool) :
    small.pageOf shown (small.totalOrder spec).value window namesOnly
      = store.pageOf shown (store.totalOrder spec).value window namesOnly := by
  have hkept : ∀ id ∈ shown, (!gone id) = true := by
    intro id hid
    obtain ⟨feature, hfeature, rfl⟩ := hshown id hid
    rw [(h.mem_features_iff.1 hfeature).2]
    rfl
  have hrank : shown.rank (small.totalOrder spec).value = shown.rank (store.totalOrder spec).value := by
    rw [← IdSet.rank_filter_order hkept, h.filter_totalOrder online onlineSmall,
      IdSet.rank_filter_order hkept]
  have hfind : ∀ id ∈ shown.rank (store.totalOrder spec).value, small.find? id = store.find? id := by
    intro id hid
    obtain ⟨feature, hfeature, heq⟩ := hshown id (mem_rank.1 hid)
    rw [consistentSmall.find?_eq_some_iff.2 ⟨hfeature, heq⟩,
      consistent.find?_eq_some_iff.2 ⟨(h.mem_features_iff.1 hfeature).1, heq⟩]
  rw [pageOf, pageOf, hrank, List.filterMap_congr hfind]

end Lacks

end Store

/-! ### Two runs -/

namespace Engine

/-- The same features are shown, whether or not some of those that are hidden are there. -/
theorem shownIds_of_lacks {engine : Engine} {small : Store} {gone : Int64 → Bool}
    (consistent : engine.store.Consistent) (online : engine.store.Online)
    (consistentSmall : small.Consistent) (onlineSmall : small.Online)
    (lacks : small.Lacks engine.store gone) {request : Request} {context : Context}
    (hidden : ∀ feature ∈ engine.store.features, gone feature.id = true →
      ¬ engine.Shows request context feature) :
    ({ engine with store := small } : Engine).shownIds request context
      = engine.shownIds request context := by
  refine IdSet.ext_mem fun id => ?_
  rw [mem_shownIds_iff engine consistent online,
    mem_shownIds_iff { engine with store := small } consistentSmall onlineSmall]
  constructor
  · rintro ⟨feature, hmem, hid, hshows, hholds⟩
    obtain ⟨hmem, hkept⟩ := lacks.mem_features_iff.1 hmem
    exact ⟨feature, hmem, hid, ⟨hshows.deleted, hshows.unlisted, hshows.enterprise⟩,
      (Query.holds_congr (engine.settingOf context) (lacks.sameAbout hkept) _).2 hholds⟩
  · rintro ⟨feature, hmem, hid, hshows, hholds⟩
    have hkept : gone feature.id = false := by
      cases hgone : gone feature.id with
      | false => rfl
      | true => exact absurd hshows (hidden feature hmem hgone)
    exact ⟨feature, lacks.mem_features_iff.2 ⟨hmem, hkept⟩, hid,
      ⟨hshows.deleted, hshows.unlisted, hshows.enterprise⟩,
      (Query.holds_congr (engine.settingOf context) (lacks.sameAbout hkept) _).1 hholds⟩

/-- **Hidden features leave no trace.** A request succeeds with the same page on a store that lacks some of
the features which the request hides, with or without their other records. -/
theorem run_of_lacks (engine : Engine) (small : Store) (gone : Int64 → Bool)
    (reachable : engine.store.Reachable) (online : engine.store.Online)
    (reachableSmall : small.Reachable) (onlineSmall : small.Online) (hcache : engine.cache = none)
    (lacks : small.Lacks engine.store gone) {request : Request} {context : Context}
    (hidden : ∀ feature ∈ engine.store.features, gone feature.id = true →
      ¬ engine.Shows request context feature) (now : Nat) :
    ∃ page, (engine.run now request context).value.1 = .ok page
      ∧ (({ engine with store := small } : Engine).run now request context).value.1 = .ok page := by
  have hshown := shownIds_of_lacks reachable.consistent online reachableSmall.consistent onlineSmall
    lacks hidden
  refine ⟨_, engine.value_run online hcache now request context, ?_⟩
  rw [value_run { engine with store := small } onlineSmall hcache, hshown]
  refine congrArg Except.ok (lacks.pageOf_eq reachable.consistent reachableSmall.consistent online
    onlineSmall (fun id hid => ?_) _ _ _)
  rw [← hshown, mem_shownIds_iff { engine with store := small } reachableSmall.consistent
    onlineSmall] at hid
  obtain ⟨feature, hmem, heq, -⟩ := hid
  exact ⟨feature, hmem, heq⟩

/-- Without a deleted feature, the page of a request that hides it is the same. -/
theorem run_of_lacks_deleted :
    ∃ page, ((ofFeatures [.ownedBy "ann" 1 true, .ownedBy "bob" 2 false]).run 0 (.ofQuery "owner!=cal")
        (.anonymousAt .epoch)).value.1 = .ok page
      ∧ (({ ofFeatures [.ownedBy "ann" 1 true, .ownedBy "bob" 2 false] with
            store := (ofFeatures [.ownedBy "ann" 1 true, .ownedBy "bob" 2 false]).store.without
              (· == 1) true } : Engine).run 0 (.ofQuery "owner!=cal")
        (.anonymousAt .epoch)).value.1 = .ok page :=
  run_of_lacks (ofFeatures [.ownedBy "ann" 1 true, .ownedBy "bob" 2 false])
    ((ofFeatures [.ownedBy "ann" 1 true, .ownedBy "bob" 2 false]).store.without (· == 1) true) (· == 1)
    (Store.reachable_ofRecords _ _ _ _) (Store.online_ofRecords _ _ _ _)
    (Store.reachable_ofRecords _ _ _ _) (Store.online_ofRecords _ _ _ _) rfl
    ((Store.reachable_ofRecords _ _ _ _).consistent.lacks_without (· == 1) true)
    (fun feature hmem hgone hshows => by
      have hfeatures : (ofFeatures [.ownedBy "ann" 1 true, .ownedBy "bob" 2 false]).store.features
          = [.ownedBy "ann" 1 true, .ownedBy "bob" 2 false] := by decide +kernel
      rw [hfeatures, List.mem_cons, List.mem_singleton] at hmem
      rcases hmem with rfl | rfl
      · exact absurd (hshows.deleted rfl) (by decide)
      · exact absurd hgone (by decide))
    0

end Engine

end FeatureQuery
