import FeatureQuery.Proofs.Answers.Offline
import FeatureQuery.Proofs.Cache.Requests

/-!
# Collections that are offline

While features are online, a request is answered as if the records of the collections that are offline did not
exist, and all collections were online. A term whose lookup fails matches nothing, so it is true of no feature, or
of every feature if it is negated; every other term means what it means while all collections are online. A sort
order that cannot be looked up leaves the matches in the order of their ids.

## Main results

* `Engine.value_run_onStore_withoutOffline`, `Engine.value_run_onStore_allOnline`: a request is answered as over
  other stores.
* `Engine.mem_shownIds_of_offline`: which features are shown.
* `Engine.run_offline`: what a request is answered with while collections are offline.
-/

namespace FeatureQuery

/-- A page is made of the features only. -/
theorem Store.pageOf_keeping (store : Store) {keep : Collection → Bool} (hkeep : keep .feature = true) :
    (store.keeping keep).pageOf = store.pageOf := by
  funext shown order window namesOnly
  rw [pageOf, pageOf, store.find?_keeping hkeep]

namespace Engine

/-- The engine over another store, without a cache. -/
def onStore (engine : Engine) (store : Store) : Engine :=
  { engine with store := store, cache := none }

/-- A lookup for a request fails: that of one of its terms, or that of its sort order. -/
def lookupFails (engine : Engine) (request : Request) (context : Context) : Bool :=
  (Query.read request.query).terms.any (engine.settingOf context).fails
    || engine.store.sortFails (engine.specOf request)

variable {engine : Engine} {request : Request} {context : Context}

/-- A store with the same features, over which the terms of a request have the same answers, shows the same
features. -/
theorem shownIds_onStore_keeping (features : .feature ∉ engine.store.offline) (keep : Collection → Bool)
    (hkeep : keep .feature = true)
    (hanswer : ∀ term ∈ (Query.read request.query).terms,
      (((engine.settingOf context).onStore (engine.store.keeping keep)).resolveTerm term).value.answer
        = ((engine.settingOf context).resolveTerm term).value.answer) :
    (engine.onStore (engine.store.keeping keep)).shownIds request context = engine.shownIds request context := by
  have hall : (engine.onStore (engine.store.keeping keep)).store.allIds = engine.store.allIds :=
    Store.allIds_keeping features keep hkeep
  have hfind : (engine.onStore (engine.store.keeping keep)).store.find? = engine.store.find? :=
    engine.store.find?_keeping hkeep
  have hanswers : (((engine.onStore (engine.store.keeping keep)).settingOf context).answers
      (Query.read request.query)).value
        = ((engine.settingOf context).answers (Query.read request.query)).value := by
    rw [Setting.value_answers, Setting.value_answers]
    exact List.map_congr_left hanswer
  rw [shownIds, shownIds, Store.value_combine, Store.value_combine, hall, hfind, hanswers]
  rfl

/-- If the sort order has the same value too, the request is answered with the same page. -/
theorem value_run_onStore_keeping (features : .feature ∉ engine.store.offline) (keep : Collection → Bool)
    (hkeep : keep .feature = true)
    (hanswer : ∀ term ∈ (Query.read request.query).terms,
      (((engine.settingOf context).onStore (engine.store.keeping keep)).resolveTerm term).value.answer
        = ((engine.settingOf context).resolveTerm term).value.answer)
    (horder : ((engine.store.keeping keep).totalOrder (engine.specOf request)).value
      = (engine.store.totalOrder (engine.specOf request)).value) (now : Nat) :
    ((engine.onStore (engine.store.keeping keep)).run now request context).value.1
      = (engine.compute request context).value := by
  have honline : (engine.onStore (engine.store.keeping keep)).store.Online := engine.store.online_keeping keep
  have hpage : (engine.onStore (engine.store.keeping keep)).store.pageOf = engine.store.pageOf :=
    engine.store.pageOf_keeping hkeep
  have hspec : ((engine.onStore (engine.store.keeping keep)).store.totalOrder
      ((engine.onStore (engine.store.keeping keep)).specOf request)).value
        = (engine.store.totalOrder (engine.specOf request)).value := horder
  rw [value_run _ honline rfl, engine.value_compute features,
    shownIds_onStore_keeping features keep hkeep hanswer, hspec, hpage]

/-- While features are online, a request is answered as if the records of the collections that are offline did not
exist. -/
theorem value_run_onStore_withoutOffline (features : .feature ∉ engine.store.offline) (now : Nat) :
    ((engine.onStore engine.store.withoutOffline).run now request context).value.1
      = (engine.compute request context).value :=
  value_run_onStore_keeping features engine.store.isOnline (decide_eq_true features)
    (fun term _ => ((engine.settingOf context).source_resolveTerm term).answer_withoutOffline features)
    (engine.store.value_totalOrder_withoutOffline (engine.specOf request)) now

/-- While features are online, a request none of whose lookups fails is answered as while all collections are. -/
theorem value_run_onStore_allOnline (features : .feature ∉ engine.store.offline)
    (hfails : engine.lookupFails request context = false) (now : Nat) :
    ((engine.onStore engine.store.allOnline).run now request context).value.1
      = (engine.compute request context).value := by
  obtain ⟨hterms, hsort⟩ := Bool.or_eq_false_iff.1 hfails
  rw [List.any_eq_false] at hterms
  exact value_run_onStore_keeping features (fun _ => true) rfl
    (fun term hterm => ((engine.settingOf context).source_resolveTerm term).answer_allOnline features
      (Bool.eq_false_iff.2 (hterms term hterm)))
    (congrArg Noted.value (Store.totalOrder_allOnline hsort)) now

/-- While features are online, a request shows those that it may show and that its query is true of, if a term
whose lookup fails is true of every feature where it is negated and of none otherwise. -/
theorem mem_shownIds_of_offline (consistent : engine.store.Consistent)
    (features : .feature ∉ engine.store.offline) (request : Request) (context : Context) (id : Int64) :
    id ∈ engine.shownIds request context
      ↔ ∃ feature ∈ engine.store.features, feature.id = id ∧ engine.Shows request context feature
          ∧ ((Query.read request.query).terms = []
            ∨ ∃ clause ∈ (Query.read request.query).clauses, ∀ term ∈ clause,
                if (engine.settingOf context).fails term then term.negated = true
                else term.Holds (engine.settingOf context) feature) := by
  have hall : ∀ feature ∈ engine.store.features, feature.id ∈ engine.store.allIds.value := by
    intro feature hmem
    rw [← Store.allIds_keeping features (fun _ => true) rfl, Store.mem_allIds (engine.store.online_keeping _ .feature)]
    exact ⟨feature, hmem, rfl⟩
  have hterm : ∀ (term : Term) (feature : Feature),
      Xor ((engine.settingOf context).fails term = false ∧ term.test.Holds (engine.settingOf context) feature)
          (term.negated = true)
        ↔ if (engine.settingOf context).fails term then term.negated = true
          else term.Holds (engine.settingOf context) feature := by
    intro term feature
    cases (engine.settingOf context).fails term with
    | true => simp [xor_def]
    | false => simp [Term.Holds]
  refine engine.mem_shownIds_iff_of_matches consistent (fun feature hmem => ?_) id
  rw [Setting.value_answers, Store.mem_combine_iff (hall feature hmem) _
    (Setting.rightAbout_of_offline consistent features hmem)]
  simp only [hterm]

/-- **Offline collections.** While features are online, and without a cache that can be read, a request is
answered with a page. It is the page over the store without the records of the collections that are offline, which
is a store like any other with all collections online. A term whose lookup fails counts as true of every feature
where it is negated and of none otherwise, and the other terms mean what they mean. A sort order whose lookup fails
leaves the features in the order of their ids, and any other is the order that the store gives while all
collections are online. -/
theorem run_offline (reachable : engine.store.Reachable) (features : .feature ∉ engine.store.offline)
    (hunread : ∀ cache, engine.cache = some cache → cache.readFault ≠ none) (now : Nat) (request : Request)
    (context : Context) :
    (engine.store.withoutOffline.Reachable ∧ engine.store.withoutOffline.Online)
      ∧ ((engine.onStore engine.store.withoutOffline).run now request context).value.1
        = (engine.run now request context).value.1
      ∧ ∃ shown order,
        (engine.run now request context).value.1
          = .ok (engine.store.pageOf shown order request.window request.namesOnly)
        ∧ (if engine.store.sortFails (engine.specOf request) then shown.rank order = shown.toList
          else order = (engine.store.allOnline.totalOrder (engine.specOf request)).value)
        ∧ ∀ id, id ∈ shown
          ↔ ∃ feature ∈ engine.store.features, feature.id = id ∧ engine.Shows request context feature
              ∧ ((Query.read request.query).terms = []
                ∨ ∃ clause ∈ (Query.read request.query).clauses, ∀ term ∈ clause,
                    if (engine.settingOf context).fails term then term.negated = true
                    else term.Holds (engine.settingOf context) feature) := by
  have hrun : (engine.run now request context).value.1 = (engine.compute request context).value :=
    value_run_of_unread hunread now request context
  refine ⟨⟨reachable.keeping _, engine.store.online_keeping _⟩, ?_, engine.shownIds request context,
    (engine.store.totalOrder (engine.specOf request)).value, ?_, ?_,
    mem_shownIds_of_offline reachable.consistent features request context⟩
  · rw [hrun, value_run_onStore_withoutOffline features]
  · rw [hrun, engine.value_compute features]
  · cases hfails : engine.store.sortFails (engine.specOf request) with
    | true =>
        rw [if_pos rfl, Store.value_totalOrder_of_fails hfails]
        exact IdSet.rank_nil _
    | false =>
        rw [if_neg Bool.false_ne_true, Store.totalOrder_allOnline hfails]

/-- An engine over a feature that ships in milestone 120, whose stages are offline. -/
def stagesOffline : Engine :=
  { ofFeatures [] with
    store := (Store.ofRecords [.ownedBy "ann" 1 false] [.shippedIn 1 120] [] []).change (.offline .stage true) }

/-- The request for the features that do not ship in milestone 120, the latest first. -/
def notIn120 : Request :=
  { Request.ofQuery "-browsers.chrome.desktop=120" with sort := some ⟨"browsers.chrome.desktop", true⟩ }

/-- While the stages are offline the feature is shown, as it would be if it had none. While all collections are
online it is not. -/
theorem run_offline_stages :
    stagesOffline.store.sortFails (stagesOffline.specOf notIn120) = true
      ∧ ((stagesOffline.onStore stagesOffline.store.withoutOffline).run 0 notIn120 (.anonymousAt .epoch)).value.1
        = .ok ⟨[.nameOnly 1 ""], 1⟩
      ∧ ((stagesOffline.onStore stagesOffline.store.allOnline).run 0 notIn120 (.anonymousAt .epoch)).value.1
        = .ok ⟨[], 0⟩ := by
  have hreachable : stagesOffline.store.Reachable :=
    (Store.reachable_ofRecords _ _ _ _).change (.offline .stage true)
  have hfeatures : .feature ∉ stagesOffline.store.offline := by decide +kernel
  have hpage : (stagesOffline.run 0 notIn120 (.anonymousAt .epoch)).value.1 = .ok ⟨[.nameOnly 1 ""], 1⟩ := by
    decide +kernel
  obtain ⟨-, hsame, -⟩ := run_offline hreachable hfeatures
    (fun cache hcache => absurd hcache (by simp [stagesOffline, ofFeatures])) 0 notIn120 (.anonymousAt .epoch)
  exact ⟨by decide +kernel, hsame.trans hpage, by decide +kernel⟩

end Engine

end FeatureQuery
