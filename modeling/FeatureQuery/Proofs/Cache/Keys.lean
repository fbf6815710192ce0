import FeatureQuery.Proofs.Json.Unambiguous
import FeatureQuery.Proofs.Page
import FeatureQuery.Proofs.Term.Blanks

/-!
# Keys of pages

The key of a request determines all that its page depends on besides the records and the context, except for
the blanks of the query. These are collapsed in the key, also between quotes, where they may count: a field
that holds texts is compared with what stands there.

## Main results

* `cacheKey_inj`: what two requests with the same key have in common.
* `Engine.answersAlike_of_keyOf_eq`: two requests with the same key have the same pages exactly if their
  queries mean the same, which they do unless they compare texts with different literals.
* `Engine.not_answersAlike_of_blanks`: two requests with the same key and different pages.
-/

namespace FeatureQuery

/-! ### What a key tells -/

/-- A specification that was read is displayed as the text it was read from, without the blanks around it. -/
theorem SortSpec.display_ofText (text : String) :
    (ofText text).display = String.ofList (Text.trim text.toList) := by
  rw [ofText, ofTrimmed.eq_def]
  split
  · next key heq =>
      rw [heq, display, if_pos rfl, String.ofList_cons]
      rfl
  · rfl

/-- Two specifications that were read and are displayed alike are the same. -/
theorem SortSpec.eq_of_display_eq {text text' : String}
    (h : (ofText text).display = (ofText text').display) : ofText text = ofText text' := by
  rw [display_ofText, display_ofText] at h
  rw [ofText, ofText, String.ofList_injective h]

/-- **Keys.** The key of a request determines the normal form of its query, its order as displayed, and what it
shows. -/
theorem cacheKey_inj {keyPrefix query query' : String} {spec spec' : SortSpec}
    {visibility visibility' : Visibility} {window window' : Window} {namesOnly namesOnly' : Bool}
    (h : cacheKey keyPrefix query spec visibility window namesOnly
      = cacheKey keyPrefix query' spec' visibility' window' namesOnly') :
    normalizeQuery query = normalizeQuery query' ∧ spec.display = spec'.display ∧ visibility = visibility'
      ∧ window = window' ∧ namesOnly = namesOnly' := by
  have hchars := congrArg String.toList h
  rw [cacheKey, cacheKey, String.toList_append, String.toList_append (s := keyPrefix ++ ":"),
    List.append_cancel_left_eq] at hchars
  have hfields := Json.compact_injective (String.toList_inj.1 hchars)
  simp only [keyFields, Json.obj, Json.object.injEq, List.map_cons, List.map_nil, List.cons.injEq,
    Prod.mk.injEq, Json.bool.injEq, true_and, and_true] at hfields
  obtain ⟨hnames, hnum, hquery, hdeleted, henterprise, hunlisted, hspec, hstart⟩ := hfields
  obtain ⟨unlisted, deleted, enterprise⟩ := visibility
  obtain ⟨start, num⟩ := window
  obtain ⟨start', num'⟩ := window'
  have hstart : start = start' := Int.ofNat.inj (Json.Number.integer.inj (Json.number.inj hstart))
  have hnum : num = num' := by
    cases num with
    | none =>
        cases num' with
        | none => rfl
        | some n' => exact absurd hnum (by simp [Json.orNull, Json.int])
    | some n =>
        cases num' with
        | none => exact absurd hnum (by simp [Json.orNull, Json.int])
        | some n' =>
            have hn : n = n' := Int.ofNat.inj (Json.Number.integer.inj (Json.number.inj hnum))
            rw [hn]
  refine ⟨Option.some.inj (Json.string.inj hquery), Option.some.inj (Json.string.inj hspec), ?_, ?_, hnames⟩
  · exact congr (congrArg₂ Visibility.mk hunlisted hdeleted) henterprise
  · rw [hstart, hnum]

/-! ### Requests with the same key -/

/-- Without a cache, an engine answers two requests with the same page, whatever is stored and permitted and
whoever asks when. -/
def Engine.AnswersAlike (engine : Engine) (request other : Request) : Prop :=
  ∀ (store : Store) (permissions : Permissions) (now : Nat) (context : Context), store.Reachable →
    store.Online →
      let engine := { engine with store := store, permissions := permissions, cache := none }
      (engine.run now request context).value.1 = (engine.run now other context).value.1

/-- The queries of two requests are true of the same features among those that the first request may show. -/
def Engine.MeansAlike (engine : Engine) (request other : Request) : Prop :=
  ∀ (store : Store) (permissions : Permissions) (context : Context), store.Reachable → store.Online →
    let engine := { engine with store := store, permissions := permissions, cache := none }
    ∀ feature ∈ store.features, engine.Shows request context feature →
      ((Query.read request.query).Holds (engine.settingOf context) feature
        ↔ (Query.read other.query).Holds (engine.settingOf context) feature)

/-- Two requests that were read and have the same key differ in their queries only, and the collapsed form of
these is the same. -/
theorem Engine.eq_of_keyOf_eq {engine : Engine} {request other : Request} {sort sort' : String}
    (hsort : engine.specOf request = .ofText sort) (hsort' : engine.specOf other = .ofText sort')
    (hkey : engine.keyOf request = engine.keyOf other) :
    (Query.read request.query).collapsed = (Query.read other.query).collapsed
      ∧ engine.specOf request = engine.specOf other ∧ request.visibility = other.visibility
      ∧ request.window = other.window ∧ request.namesOnly = other.namesOnly := by
  obtain ⟨hquery, hspec, hrest⟩ := cacheKey_inj hkey
  rw [hsort, hsort'] at hspec
  refine ⟨?_, ?_, hrest⟩
  · rw [← Query.read_normalizeQuery, hquery, Query.read_normalizeQuery]
  · rw [hsort, hsort', SortSpec.eq_of_display_eq hspec]

/-- What a request may show depends on what it asks for only. -/
theorem Engine.Shows.congr {engine : Engine} {request other : Request} {context : Context} {feature : Feature}
    (h : request.visibility = other.visibility) (hshows : engine.Shows request context feature) :
    engine.Shows other context feature :=
  ⟨h ▸ hshows.deleted, h ▸ hshows.unlisted, h ▸ hshows.enterprise⟩

/-! ### The store of one feature -/

namespace Store

/-- The store of one feature and its records. -/
def only (store : Store) (feature : Feature) : Store :=
  .ofRecords [feature] (store.stagesOf feature) (store.gatesOf feature) (store.starsOf feature)

/-- The store of one feature has this feature. -/
theorem features_only (store : Store) (feature : Feature) : (store.only feature).features = [feature] :=
  features_ofRecords _ _ _ (List.nodup_singleton _)

/-- The store of one feature has the same records of it. -/
theorem sameAbout_only (store : Store) (feature : Feature) :
    store.SameAbout (store.only feature) feature where
  stages := by
    rw [stagesOf, stagesOf, only, stages_ofRecords, stagesOf, List.filter_filter]
    simp only [Bool.and_self]
  gates := by
    rw [gatesOf, gatesOf, only, gates_ofRecords, gatesOf, List.filter_filter]
    simp only [Bool.and_self]
  stars := by
    rw [starsOf, starsOf, only, stars_ofRecords, starsOf, List.filter_filter]
    simp only [Bool.and_self]

end Store

/-- The page of a request that may show the only feature counts it exactly if the query is true of it. -/
theorem Engine.total_ne_zero_iff (engine : Engine) (consistent : engine.store.Consistent)
    (online : engine.store.Online) {feature : Feature} (hfeatures : engine.store.features = [feature])
    {request : Request} {context : Context} (hshows : engine.Shows request context feature)
    (order : List Int64) (window : Window) (namesOnly : Bool) :
    (engine.store.pageOf (engine.shownIds request context) order window namesOnly).total ≠ 0
      ↔ (Query.read request.query).Holds (engine.settingOf context) feature := by
  have hmem : feature ∈ engine.store.features := hfeatures ▸ List.mem_singleton_self feature
  have hiff := engine.mem_shownIds_iff_holds consistent online hmem hshows
  have hsub : ∀ id ∈ engine.shownIds request context, id = feature.id := by
    intro id hid
    obtain ⟨other, hother, rfl, -⟩ := (engine.mem_shownIds_iff consistent online request context id).1 hid
    rw [hfeatures, List.mem_singleton] at hother
    rw [hother]
  by_cases hholds : (Query.read request.query).Holds (engine.settingOf context) feature
  · refine iff_of_true ?_ hholds
    have hshown : engine.shownIds request context = .ofList [feature.id] := by
      refine IdSet.ext_mem fun id => ?_
      rw [IdSet.mem_ofList, List.mem_singleton]
      constructor
      · exact hsub id
      · rintro rfl
        exact hiff.2 hholds
    have hrank : (IdSet.ofList [feature.id]).rank order = [feature.id] :=
      List.perm_singleton.1 (perm_rank _ order)
    have hfind : engine.store.find? feature.id = some feature :=
      consistent.find?_eq_some_iff.2 ⟨hmem, rfl⟩
    rw [hshown, Store.pageOf, hrank, List.filterMap_cons_some hfind]
    exact (by decide : UInt64.ofNat 1 ≠ 0)
  · refine iff_of_false ?_ hholds
    have hshown : engine.shownIds request context = .empty := by
      refine IdSet.ext_mem fun id => iff_of_false ?_ (IdSet.not_mem_empty id)
      intro hid
      obtain rfl := hsub id hid
      exact hholds (hiff.1 hid)
    have hrank : IdSet.empty.rank order = [] := List.perm_nil.1 (perm_rank _ order)
    rw [hshown, Store.pageOf, hrank]
    exact fun h => h rfl

/-! ### Pages and meanings -/

namespace Engine

variable {engine : Engine} {request other : Request}

/-- Two requests that show features alike and are answered with the same pages have queries that are true of the
same features: a feature can be told from the pages over its own records alone. -/
theorem meansAlike_of_answersAlike (hvisibility : request.visibility = other.visibility)
    (h : engine.AnswersAlike request other) : engine.MeansAlike request other := by
  intro store permissions context _ _ current feature _ hshows
  have reachable : (store.only feature).Reachable := Store.reachable_ofRecords _ _ _ _
  have online : (store.only feature).Online := Store.online_ofRecords _ _ _ _
  -- On the store of the one feature, the page is empty or not according to what the query says of it.
  let small : Engine :=
    { engine with store := store.only feature, permissions := permissions, cache := none }
  have hsmall : small.Shows request context feature :=
    ⟨hshows.deleted, hshows.unlisted, hshows.enterprise⟩
  have hrun : (small.run 0 request context).value.1 = (small.run 0 other context).value.1 :=
    h (store.only feature) permissions 0 context reachable online
  rw [small.value_run online rfl, small.value_run online rfl, Except.ok.injEq] at hrun
  have hrequest := small.total_ne_zero_iff reachable.consistent online (store.features_only feature)
    hsmall (store.only feature |>.totalOrder (small.specOf request)).value request.window request.namesOnly
  have hother := small.total_ne_zero_iff reachable.consistent online (store.features_only feature)
    (hsmall.congr hvisibility) (store.only feature |>.totalOrder (small.specOf other)).value other.window
    other.namesOnly
  have hlocal : ∀ query : Query, query.Holds (current.settingOf context) feature
      ↔ query.Holds (small.settingOf context) feature :=
    Query.holds_congr (current.settingOf context) (store.sameAbout_only feature)
  rw [hlocal, hlocal, ← hrequest, ← hother, hrun]

/-- Two requests that differ in their queries only are answered with the same pages if these are true of the
same features. -/
theorem answersAlike_of_meansAlike (hspec : engine.specOf request = engine.specOf other)
    (hvisibility : request.visibility = other.visibility) (hwindow : request.window = other.window)
    (hnames : request.namesOnly = other.namesOnly) (h : engine.MeansAlike request other) :
    engine.AnswersAlike request other := by
  intro store permissions now context reachable online current
  have hshown : current.shownIds request context = current.shownIds other context := by
    refine IdSet.ext_mem fun id => ?_
    rw [current.mem_shownIds_iff reachable.consistent online,
      current.mem_shownIds_iff reachable.consistent online]
    refine exists_congr fun feature => and_congr_right fun hmem => and_congr_right fun _ => ?_
    have hmeans := h store permissions context reachable online feature hmem
    constructor
    · rintro ⟨hshows, hholds⟩
      exact ⟨hshows.congr hvisibility, (hmeans hshows).1 hholds⟩
    · rintro ⟨hshows, hholds⟩
      have hshows' := hshows.congr hvisibility.symm
      exact ⟨hshows', (hmeans hshows').2 hholds⟩
  have hspec' : current.specOf request = current.specOf other := hspec
  rw [current.value_run online rfl, current.value_run online rfl, hshown, hspec', hwindow, hnames]

/-- **Keys are sound up to blanks in quotes.** Two requests that were read and have the same key are answered
with the same pages exactly if their queries are true of the same features. Their queries have the same
collapsed form, and they are true of the same features if they compare texts with the same literals. -/
theorem answersAlike_of_keyOf_eq {sort sort' : String} (hsort : engine.specOf request = .ofText sort)
    (hsort' : engine.specOf other = .ofText sort') (hkey : engine.keyOf request = engine.keyOf other) :
    (engine.AnswersAlike request other ↔ engine.MeansAlike request other)
      ∧ (Query.read request.query).collapsed = (Query.read other.query).collapsed
      ∧ ((Query.read request.query).TextsAgree (Query.read other.query) →
          engine.AnswersAlike request other) := by
  obtain ⟨hcollapsed, hspec, hvisibility, hwindow, hnames⟩ := eq_of_keyOf_eq hsort hsort' hkey
  have hanswers := answersAlike_of_meansAlike hspec hvisibility hwindow hnames
  refine ⟨⟨meansAlike_of_answersAlike hvisibility, hanswers⟩, hcollapsed, fun htexts => hanswers ?_⟩
  intro store permissions context _ _ current feature _ _
  exact Query.holds_congr_collapsed hcollapsed htexts _ feature

/-- The number of blanks in the name of a category makes no difference. -/
theorem answersAlike_of_keyOf_eq_category :
    (ofFeatures []).AnswersAlike (.ofQuery "category=\"User  input\"  -owner=bob")
      (.ofQuery "category=\"User input\" -owner=bob") := by
  have hsort : ∀ query, (ofFeatures []).specOf (.ofQuery query) = .ofText "-created.when" := fun _ => rfl
  have hkey : (ofFeatures []).keyOf (.ofQuery "category=\"User  input\"  -owner=bob")
      = (ofFeatures []).keyOf (.ofQuery "category=\"User input\" -owner=bob") := by
    decide +kernel
  have hread : Query.read "category=\"User  input\"  -owner=bob"
      = ⟨[[.plain (.field "category" .eq "\"User  input\""), ⟨true, false, .field "owner" .eq "bob"⟩]]⟩ := by
    decide +kernel
  have hread' : Query.read "category=\"User input\" -owner=bob"
      = ⟨[[.plain (.field "category" .eq "\"User input\""), ⟨true, false, .field "owner" .eq "bob"⟩]]⟩ := by
    decide +kernel
  have hcategory : (Test.field "category" .eq "\"User  input\"").comparesTexts ≠ true := by
    decide +kernel
  have htexts : (Query.read "category=\"User  input\"  -owner=bob").TextsAgree
      (Query.read "category=\"User input\" -owner=bob") := by
    rw [hread, hread']
    exact .cons (.cons (fun h => absurd h hcategory) (.cons (fun _ _ => rfl) .nil)) .nil
  exact (answersAlike_of_keyOf_eq (hsort _) (hsort _) hkey).2.2 htexts

/-- Two addresses that differ in their blanks share a key, but a feature of one of them is not on the page of
the other. -/
theorem not_answersAlike_of_blanks :
    isCacheable "owner=\"Ann  Lee\"" true = true ∧ isCacheable "owner=\"Ann Lee\"" true = true
      ∧ (ofFeatures []).specOf (.ofQuery "owner=\"Ann  Lee\"") = .ofText "-created.when"
      ∧ (ofFeatures []).specOf (.ofQuery "owner=\"Ann Lee\"") = .ofText "-created.when"
      ∧ (ofFeatures []).keyOf (.ofQuery "owner=\"Ann  Lee\"")
        = (ofFeatures []).keyOf (.ofQuery "owner=\"Ann Lee\"")
      ∧ ¬ (ofFeatures []).AnswersAlike (.ofQuery "owner=\"Ann  Lee\"") (.ofQuery "owner=\"Ann Lee\"") := by
  refine ⟨by decide +kernel, by decide +kernel, rfl, rfl, by decide +kernel, ?_⟩
  intro halike
  have hrun := halike (.ofRecords [.ownedBy "Ann  Lee" 1 false] [] [] []) .none 0 (.anonymousAt .epoch)
    (Store.reachable_ofRecords _ _ _ _) (Store.online_ofRecords _ _ _ _)
  exact absurd (congrArg (fun result => result.toOption.map Page.ids) hrun) (by decide +kernel)

end Engine

end FeatureQuery
