import FeatureQuery.Proofs.Answers.Query

/-!
# What a page shows

A page is settled by three things: the set of features that the query is true of and that may be shown, the
order that the store gives, and the window. How the set came about leaves no trace on it.

## Main results

* `Store.page_rank`: hidden features can be dropped before the matches are put in order.
* `Engine.mem_shownIds_iff`, `Engine.value_compute`: every request is answered with the page of the features
  that it may show and that its query is true of.
* `Engine.run_shows_exactly`: with an open window the ids on the page are exactly those features.
-/

namespace FeatureQuery

/-! ### Small engines -/

/-- The start of 1 January 1970. -/
def Time.Instant.epoch : Time.Instant :=
  ⟨0, 0, 0, by decide, by decide, by decide, by decide⟩

/-- A feature with an owner and nothing else to tell. -/
def Feature.ownedBy (owner : String) (id : Int64) (deleted : Bool) : Feature where
  id := id
  name := ""
  summary := ""
  category := 0
  featureType := 0
  implStatusChrome := 0
  intentStage := 0
  standardMaturity := 0
  ownerEmails := [owner]
  editorEmails := []
  ccEmails := []
  creatorEmail := none
  blinkComponents := []
  created := .epoch
  updated := .epoch
  accurateAsOf := none
  shippingYear := none
  starCount := 0
  deleted := deleted
  unlisted := false

/-- The stage in which a feature ships to the desktop. -/
def Stage.shippedIn (featureId milestone : Int64) : Stage where
  id := featureId
  featureId := featureId
  stageType := 160
  desktopFirst := some milestone
  desktopLast := none
  androidFirst := none
  androidLast := none
  iosFirst := none
  webviewFirst := none
  rolloutMilestone := none

/-- The engine over some features, with standard settings and without permissions or a cache. -/
def Engine.ofFeatures (features : List Feature) : Engine :=
  ⟨.ofRecords features [] [] [], .none, .standard, none⟩

/-- The request for all that matches a query, which shows unlisted features. -/
def Request.ofQuery (query : String) : Request :=
  ⟨query, none, ⟨true, false, false⟩, .all, true⟩

/-- An anonymous caller at an instant. -/
def Context.anonymousAt (now : Time.Instant) : Context :=
  ⟨now, 100, none⟩

/-! ### Records in order -/

/-- A list without repetitions has none to be dropped. -/
theorem eraseDups_of_nodup {ids : List Int64} (h : ids.Nodup) : ids.eraseDups = ids := by
  induction ids with
  | nil => rfl
  | cons id ids ih =>
      obtain ⟨hnot, hrest⟩ := List.nodup_cons.1 h
      have hkept : ids.filter (fun other => !other == id) = ids :=
        List.filter_eq_self.2 fun other hother => by
          have hne : other ≠ id := by
            intro heq
            exact hnot (heq ▸ hother)
          simpa using hne
      rw [List.eraseDups_cons, hkept, ih hrest]

namespace Store

/-- The page that shows a set of features in an order. -/
def pageOf (store : Store) (shown : IdSet) (order : List Int64) (window : Window) (namesOnly : Bool) :
    Page :=
  let features := (shown.rank order).filterMap store.find?
  ⟨(window.slice features).map (.ofFeature namesOnly), .ofNat features.length⟩

/-- The records of distinct ids are the features of those ids. -/
theorem recordsInOrder_eq (store : Store) {ids : List Int64} (h : ids.Nodup) :
    recordsInOrder (store.features.filter fun feature => ids.contains feature.id) ids
      = ids.filterMap store.find? := by
  rw [recordsInOrder, eraseDups_of_nodup h]
  refine List.filterMap_congr fun id hid => ?_
  rw [find?, List.find?_filter]
  refine congrArg (fun test => List.find? test store.features) (funext fun feature => ?_)
  by_cases heq : feature.id = id
  · simp [heq, hid]
  · simp [heq]

/-- **Hiding.** Hidden features can be dropped before the matches are put in order. -/
theorem page_rank {store : Store} (online : .feature ∉ store.offline) (ids : IdSet) (order : List Int64)
    (visibility : Visibility) (window : Window) (namesOnly : Bool) :
    store.page (ids.rank order) visibility window namesOnly
      = .ok (store.pageOf (ids.filter fun id => (store.find? id).any visibility.shows) order window
          namesOnly) := by
  have hfetch : store.fetchFeatures (ids.rank order)
      = .ok (store.features.filter fun feature => (ids.rank order).contains feature.id) := by
    have hcheck : store.checkOnline .feature = .ok () := by
      simp [checkOnline, online]
    rw [fetchFeatures, hcheck]
    rfl
  have hvisible : (recordsInOrder (store.features.filter fun feature =>
        (ids.rank order).contains feature.id) (ids.rank order)).filter visibility.shows
      = ((ids.filter fun id => (store.find? id).any visibility.shows).rank order).filterMap
          store.find? := by
    rw [store.recordsInOrder_eq (ids.nodup_rank order), List.filter_filterMap, IdSet.rank_filter,
      List.filterMap_filter]
    refine List.filterMap_congr fun id _ => ?_
    cases store.find? id with
    | none => simp
    | some feature => simp [Option.filter]
  rw [page, hfetch, pageOf]
  dsimp only
  rw [← hvisible]
  rfl

/-- The ids on a page are those of the features that its window shows, in either form of the entries. -/
theorem ids_pageOf_window (store : Store) (shown : IdSet) (order : List Int64) (window : Window)
    (namesOnly : Bool) :
    (store.pageOf shown order window namesOnly).ids
      = (window.slice ((shown.rank order).filterMap store.find?)).map (·.id) := by
  have hentry : (fun entry : Entry => entry.id) ∘ Entry.ofFeature namesOnly = Feature.id :=
    funext (Entry.id_ofFeature namesOnly)
  rw [pageOf, Page.ids, List.map_map, hentry]

/-- The page of features that all exist shows their ids in order. -/
theorem ids_pageOf {store : Store} (consistent : store.Consistent) {shown : IdSet}
    (hshown : ∀ id ∈ shown, ∃ feature ∈ store.features, feature.id = id) (order : List Int64)
    (namesOnly : Bool) : (store.pageOf shown order .all namesOnly).ids = shown.rank order := by
  have hid : ∀ id ∈ shown.rank order, (store.find? id).map Feature.id = some id := by
    intro id hmem
    obtain ⟨feature, hfeature, hid⟩ := hshown id (mem_rank.1 hmem)
    rw [consistent.find?_eq_some_iff.2 ⟨hfeature, hid⟩, Option.map_some, hid]
  rw [ids_pageOf_window, Window.slice_all, List.map_filterMap]
  exact (List.filterMap_congr hid).trans List.filterMap_some

end Store

/-! ### Pages of requests -/

namespace Engine

/-- The matches of a request that it may show. -/
def shownIds (engine : Engine) (request : Request) (context : Context) : IdSet :=
  let query := Query.read request.query
  (engine.store.combine query ((engine.settingOf context).answers query).value).value.filter
    fun id => (engine.store.find? id).any (engine.visibilityOf request context).shows

/-- A request shows the features that it may show and that are among the matches. -/
theorem mem_shownIds_iff_of_matches (engine : Engine) (consistent : engine.store.Consistent)
    {request : Request} {context : Context} {holds : Feature → Prop}
    (hmatch : ∀ feature ∈ engine.store.features,
      (feature.id ∈ (engine.store.combine (Query.read request.query)
          ((engine.settingOf context).answers (Query.read request.query)).value).value ↔ holds feature))
    (id : Int64) :
    id ∈ engine.shownIds request context
      ↔ ∃ feature ∈ engine.store.features, feature.id = id ∧ engine.Shows request context feature
          ∧ holds feature := by
  rw [shownIds, IdSet.mem_filter, Option.any_eq_true]
  constructor
  · rintro ⟨hid, feature, hfind, hshows⟩
    obtain ⟨hmem, rfl⟩ := consistent.find?_eq_some_iff.1 hfind
    exact ⟨feature, hmem, rfl, shows_visibilityOf.1 hshows, (hmatch feature hmem).1 hid⟩
  · rintro ⟨feature, hmem, rfl, hshows, hholds⟩
    exact ⟨(hmatch feature hmem).2 hholds, feature, consistent.find?_eq_some_iff.2 ⟨hmem, rfl⟩,
      shows_visibilityOf.2 hshows⟩

/-- **Meaning.** A request shows the features that it may show and that its query is true of. -/
theorem mem_shownIds_iff (engine : Engine) (consistent : engine.store.Consistent)
    (online : engine.store.Online) (request : Request) (context : Context) (id : Int64) :
    id ∈ engine.shownIds request context
      ↔ ∃ feature ∈ engine.store.features, feature.id = id ∧ engine.Shows request context feature
          ∧ (Query.read request.query).Holds (engine.settingOf context) feature :=
  engine.mem_shownIds_iff_of_matches consistent
    (fun _ hmem => (engine.settingOf context).mem_combine_iff consistent online hmem _) id

/-- While the features are online, the page that is computed for a request is that of the features that it
shows. -/
theorem value_compute (engine : Engine) (online : .feature ∉ engine.store.offline) (request : Request)
    (context : Context) :
    (engine.compute request context).value
      = .ok (engine.store.pageOf (engine.shownIds request context)
          (engine.store.totalOrder (engine.specOf request)).value request.window request.namesOnly) := by
  have hcompute : (engine.compute request context).value
      = (engine.store.page ((engine.store.combine (Query.read request.query)
            ((engine.settingOf context).answers (Query.read request.query)).value).value.rank
              (engine.store.totalOrder (engine.specOf request)).value)
          (engine.visibilityOf request context) request.window request.namesOnly).mapError .store := rfl
  rw [hcompute, Store.page_rank online]
  rfl

/-- Without a cache a request is answered with the page of the features that it shows. -/
theorem value_run (engine : Engine) (online : engine.store.Online) (hcache : engine.cache = none)
    (now : Nat) (request : Request) (context : Context) :
    (engine.run now request context).value.1
      = .ok (engine.store.pageOf (engine.shownIds request context)
          (engine.store.totalOrder (engine.specOf request)).value request.window request.namesOnly) := by
  rw [run_of_no_cache now request context hcache]
  exact engine.value_compute (online .feature) request context

/-- A feature that a request may show is shown exactly if the query is true of it. -/
theorem mem_shownIds_iff_holds (engine : Engine) (consistent : engine.store.Consistent)
    (online : engine.store.Online) {request : Request} {context : Context} {feature : Feature}
    (hmem : feature ∈ engine.store.features) (hshows : engine.Shows request context feature) :
    feature.id ∈ engine.shownIds request context
      ↔ (Query.read request.query).Holds (engine.settingOf context) feature := by
  rw [engine.mem_shownIds_iff consistent online]
  constructor
  · rintro ⟨other, hother, hid, -, hholds⟩
    rwa [consistent.eq_of_id_eq hmem hother hid.symm]
  · intro hholds
    exact ⟨feature, hmem, rfl, hshows, hholds⟩

/-- The ids on the page of a request with an open window are those that are shown, in order. -/
theorem ids_pageOf_shownIds (engine : Engine) (consistent : engine.store.Consistent)
    (online : engine.store.Online) (request : Request) (context : Context) (order : List Int64)
    (namesOnly : Bool) :
    (engine.store.pageOf (engine.shownIds request context) order .all namesOnly).ids
      = (engine.shownIds request context).rank order :=
  Store.ids_pageOf consistent
    (fun id hid => by
      obtain ⟨feature, hmem, heq, -⟩ := (engine.mem_shownIds_iff consistent online _ _ id).1 hid
      exact ⟨feature, hmem, heq⟩)
    order namesOnly

/-- Two requests with open windows that are answered with the same page show the same features. -/
theorem shownIds_eq_of_run_eq (engine : Engine) (consistent : engine.store.Consistent)
    (online : engine.store.Online) (hcache : engine.cache = none) {request other : Request}
    (hwindow : request.window = .all) (hwindow' : other.window = .all) {context context' : Context}
    {now : Nat} (h : (engine.run now request context).value.1 = (engine.run now other context').value.1) :
    engine.shownIds request context = engine.shownIds other context' := by
  rw [engine.value_run online hcache, engine.value_run online hcache, hwindow, hwindow',
    Except.ok.injEq] at h
  have hids := congrArg Page.ids h
  rw [engine.ids_pageOf_shownIds consistent online, engine.ids_pageOf_shownIds consistent online] at hids
  refine IdSet.ext_mem fun id => ?_
  rw [← mem_rank, hids, mem_rank]

/-- **What a page shows.** A request with an open window succeeds, and the ids on its page, each once, are
exactly those of the features that it may show and that its query is true of. -/
theorem run_shows_exactly {engine : Engine} (reachable : engine.store.Reachable)
    (online : engine.store.Online) (hcache : engine.cache = none) (now : Nat) {request : Request}
    (hwindow : request.window = .all) (context : Context) :
    ∃ page, (engine.run now request context).value.1 = .ok page ∧ page.ids.Nodup
      ∧ ∀ id, id ∈ page.ids ↔ ∃ feature ∈ engine.store.features, feature.id = id
          ∧ engine.Shows request context feature
          ∧ (Query.read request.query).Holds (engine.settingOf context) feature := by
  have hmem := engine.mem_shownIds_iff reachable.consistent online request context
  have hids := engine.ids_pageOf_shownIds reachable.consistent online request context
    (engine.store.totalOrder (engine.specOf request)).value request.namesOnly
  refine ⟨_, engine.value_run online hcache now request context, ?_, ?_⟩
  · rw [hwindow, hids]
    exact IdSet.nodup_rank _ _
  · intro id
    rw [hwindow, hids, mem_rank, hmem]

/-- Of two features the one that is owned by somebody else is shown. -/
theorem run_shows_exactly_two :
    ∃ page, ((ofFeatures [.ownedBy "ann" 1 false, .ownedBy "bob" 2 false]).run 0
        (.ofQuery "-owner=bob") (.anonymousAt .epoch)).value.1 = .ok page ∧ page.ids.Nodup
      ∧ ∀ id, id ∈ page.ids
        ↔ ∃ feature ∈ (ofFeatures [.ownedBy "ann" 1 false, .ownedBy "bob" 2 false]).store.features,
            feature.id = id
              ∧ (ofFeatures [.ownedBy "ann" 1 false, .ownedBy "bob" 2 false]).Shows
                  (.ofQuery "-owner=bob") (.anonymousAt .epoch) feature
              ∧ (Query.read "-owner=bob").Holds
                  ((ofFeatures [.ownedBy "ann" 1 false, .ownedBy "bob" 2 false]).settingOf
                    (.anonymousAt .epoch)) feature :=
  run_shows_exactly (Store.reachable_ofRecords _ _ _ _) (Store.online_ofRecords _ _ _ _) rfl 0 rfl
    (.anonymousAt .epoch)

end Engine

end FeatureQuery
