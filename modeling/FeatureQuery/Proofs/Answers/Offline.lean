import FeatureQuery.Proofs.Answers.Negation
import FeatureQuery.Proofs.Store.Keeping

/-!
# Answers while collections are offline

Stages, gates and stars may be offline while features are not. A lookup that asks them fails, and is answered as
if their records did not exist; any other lookup is answered as while all collections are online. This comes from
one fact about plans: the queries of a plan ask one collection, and only plans that ask for features are ever
complemented. So the neutral answer to a plan that fails is also the answer to it if there are no records.

## Main results

* `Plan.Asks.answer_withoutOffline`, `Plan.Asks.answer_allOnline`: the answer to a plan.
* `Setting.source_resolveTerm`: what a term asks the store for.
* `Lookup.Source.answer_withoutOffline`, `Lookup.Source.answer_of_fails`, `Lookup.Source.answer_allOnline`: the
  answer to a lookup.
* `Setting.rightAbout_of_offline`: what such an answer says about a feature.
-/

namespace FeatureQuery

/-! ### Lookups -/

/-- The lookup fails: running it notes why. -/
def Lookup.fails : Lookup → Bool
  | ready _ => false
  | pending run => !run.warnings.isEmpty

/-- A lookup that fails matches nothing. -/
theorem Lookup.answer_ofStore_of_fails {store : Store} {plan : Plan} {label : String}
    (h : (ofStore store plan label).fails = true) : (ofStore store plan label).answer = .empty := by
  cases hfetch : store.fetchAll plan.queries with
  | ok ids =>
      rw [ofStore, Store.lookup_eq_pure label hfetch] at h
      exact absurd h Bool.false_ne_true
  | error cause =>
      rw [ofStore, Store.lookup, hfetch]
      rfl

/-- A plan without queries is answered alike by all stores. -/
theorem Store.lookup_of_nil (store : Store) {plan : Plan} (h : plan.queries = []) (label : String) :
    store.lookup plan label = pure ⟨.empty, plan.complemented⟩ :=
  lookup_eq_pure label (by rw [h]; rfl)

/-- A plan asks one collection: its queries are valid queries of it, and only a plan that asks for features is
complemented. -/
structure Plan.Asks (plan : Plan) (collection : Collection) : Prop where
  valid : ∀ query ∈ plan.queries, query.Valid
  collection_eq : ∀ query ∈ plan.queries, query.collection = collection
  complemented : plan.complemented = true → collection = .feature

namespace Plan.Asks

variable {plan : Plan} {collection : Collection} {store : Store}

/-- A plan that asks a collection that is online is answered from its records. -/
theorem lookup_keeping (h : plan.Asks collection) (online : collection ∉ store.offline)
    (keep : Collection → Bool) (hkeep : keep collection = true) (label : String) :
    (store.keeping keep).lookup plan label = store.lookup plan label := by
  have hfetch : (store.keeping keep).fetchAll plan.queries = store.fetchAll plan.queries := by
    refine Store.fetchAll_congr fun query hquery => ?_
    have hcollection := h.collection_eq query hquery
    exact Store.fetchIds_keeping (h.valid query hquery) (hcollection ▸ online) keep (hcollection ▸ hkeep)
  rw [Store.lookup, Store.lookup, hfetch]

/-- A plan that asks a collection that is offline fails if it has any queries. -/
theorem fails_of_offline (h : plan.Asks collection) (offline : collection ∈ store.offline)
    (hqueries : plan.queries ≠ []) (label : String) : (Lookup.ofStore store plan label).fails = true := by
  obtain ⟨query, queries, hcons⟩ := List.exists_cons_of_ne_nil hqueries
  have hmem : query ∈ plan.queries := hcons ▸ List.mem_cons_self
  have hfetch := Store.fetchIds_of_offline (h.valid query hmem) (h.collection_eq query hmem ▸ offline)
  rw [Lookup.ofStore, Store.lookup, hcons, Store.fetchAll, hfetch]
  rfl

/-- A plan that does not fail is answered as while all collections are online. -/
theorem answer_allOnline (h : plan.Asks collection) {label : String}
    (hfails : (Lookup.ofStore store plan label).fails = false) :
    (Lookup.ofStore store.allOnline plan label).answer = (Lookup.ofStore store plan label).answer := by
  by_cases offline : collection ∈ store.offline
  · -- Only a plan that asks nothing does not fail.
    have hqueries : plan.queries = [] := by
      by_contra hqueries
      exact absurd (h.fails_of_offline offline hqueries label) (by simp [hfails])
    rw [Lookup.ofStore, Lookup.ofStore, Store.lookup_of_nil _ hqueries, Store.lookup_of_nil _ hqueries]
  · have hsame : store.allOnline.lookup plan label = store.lookup plan label :=
      h.lookup_keeping offline (fun _ => true) rfl label
    rw [Lookup.ofStore, Lookup.ofStore, hsame]

/-- While features are online, a plan is answered as if the records of the collections that are offline did not
exist. -/
theorem answer_withoutOffline (h : plan.Asks collection) (features : .feature ∉ store.offline)
    (label : String) :
    (Lookup.ofStore store.withoutOffline plan label).answer = (Lookup.ofStore store plan label).answer := by
  by_cases offline : collection ∈ store.offline
  · -- Without records nothing is selected, and the plan is not complemented, so nothing is all that it matches.
    have hplain : plan.complemented = false := by
      refine Bool.eq_false_iff.2 fun hcomplemented => features ?_
      rwa [h.complemented hcomplemented] at offline
    have hnothing : store.withoutOffline.fetchAll plan.queries = .ok .empty :=
      Store.fetchAll_of_nil fun query hquery =>
        Store.fetchIds_withoutOffline (h.valid query hquery) (h.collection_eq query hquery ▸ offline)
    have hwithout : (Lookup.ofStore store.withoutOffline plan label).answer = .empty := by
      rw [Lookup.ofStore, Store.lookup_eq_pure label hnothing, hplain]
      rfl
    rw [hwithout]
    by_cases hqueries : plan.queries = []
    · rw [Lookup.ofStore, Store.lookup_of_nil _ hqueries, hplain]
      rfl
    · exact (Lookup.answer_ofStore_of_fails (h.fails_of_offline offline hqueries label)).symm
  · have hsame : store.withoutOffline.lookup plan label = store.lookup plan label :=
      h.lookup_keeping offline store.isOnline (decide_eq_true offline) label
    rw [Lookup.ofStore, Lookup.ofStore, hsame]

end Plan.Asks

/-- The plan of a test asks the collection of the field's records. -/
theorem Field.asks_planFor (field : Field) (context : Context) (op : Operator) (raw : String)
    (negated : Bool) : (field.planFor context op raw negated).Asks field.binding.base.collection where
  valid := field.valid_queriesFor _ _
  collection_eq := by
    intro query hquery
    obtain ⟨filters, rfl⟩ := Binding.exists_filters_of_mem_queriesFor hquery
    rfl
  complemented := by
    intro hcomplemented
    have hcan := (Bool.and_eq_true_iff.1 hcomplemented).2
    obtain ⟨-, -, -, -, hprimary, -, -⟩ := Binding.exists_of_canComplement hcan
    rw [Binding.base, hprimary]
    rfl

/-- One query for all that is asked is a plan that asks its collection. -/
theorem StoreQuery.Valid.asks {query : StoreQuery} (valid : query.Valid) :
    (Plan.mk [query] false).Asks query.collection where
  valid := List.forall_mem_singleton.2 valid
  collection_eq := List.forall_mem_singleton.2 rfl
  complemented := by
    intro hcomplemented
    exact absurd hcomplemented Bool.false_ne_true

/-! ### Terms -/

/-- What looking something up comes to, as a function of the store: nothing is asked for, or one plan, or the
words of a text. -/
inductive Lookup.Source : (Store → Lookup) → Prop
  | nothing (lookup : Lookup) (hanswer : lookup.answer = .empty) : Source fun _ => lookup
  | plan {plan : Plan} {collection : Collection} (hasks : plan.Asks collection) (label : String) :
      Source fun store => .ofStore store plan label
  | text (content : String) : Source fun store => store.resolveText content

namespace CallerField

theorem valid_byAddress {p : Property} (hp : p.collection = .feature) (person : Identity) :
    (byAddress p person).Valid :=
  (StoreQuery.valid_all .feature).filter hp

theorem valid_setStars (person : Identity) : (setStars person).Valid :=
  ((StoreQuery.valid_all .star).filter rfl).filter rfl

theorem valid_pendingGates (types : IdSet) : (pendingGates types).Valid :=
  ((StoreQuery.valid_all .gate).filter rfl).filter rfl

theorem valid_decidedGates (since till : Time.Instant) : (decidedGates since till).Valid :=
  (((StoreQuery.valid_all .gate).filter rfl).filter rfl).filter rfl

end CallerField

/-- A test about the caller asks for nothing or for one query. -/
theorem CallerField.source_resolve (field : CallerField) (permissions : Permissions) (days : Int64)
    (context : Context) :
    Lookup.Source fun store => (field.resolve store permissions days context).value := by
  have hask : ∀ {query : StoreQuery}, query.Valid → Lookup.Source fun store => field.ask store query :=
    fun valid => .plan valid.asks field.label
  cases hcaller : context.caller with
  | none =>
      simp only [resolve, hcaller]
      exact .nothing _ rfl
  | some person =>
      simp only [resolve, hcaller]
      cases field with
      | owner | editor | cc | creator => exact hask (valid_byAddress rfl person)
      | starredBy => exact hask (valid_setStars person)
      | pendingApprovalBy =>
          simp only [resolveFor]
          by_cases hempty : (permissions.gateTypes person).isEmpty = true
          · simp only [if_pos hempty]
            exact .nothing _ rfl
          · simp only [if_neg hempty]
            exact hask (valid_pendingGates _)
      | recentlyReviewed =>
          simp only [resolveFor_recentlyReviewed]
          cases context.now.addDays? (-days.toInt) with
          | none => exact .nothing _ rfl
          | some since => exact hask (valid_decidedGates since context.now)

/-- The setting over another store. -/
def Setting.onStore (setting : Setting) (store : Store) : Setting :=
  { setting with store := store }

/-- What a term asks the store for. -/
theorem Setting.source_resolveTerm (setting : Setting) (term : Term) :
    Lookup.Source fun store => ((setting.onStore store).resolveTerm term).value := by
  simp only [onStore, resolveTerm]
  cases CallerField.ofTest? term.test with
  | some field => exact field.source_resolve _ _ _
  | none =>
      cases term.test with
      | text content => exact .text content
      | field name op raw =>
          simp only [Store.resolveField]
          cases Field.ofName? name with
          | none => exact .nothing _ rfl
          | some field =>
              simp only [Store.resolveKnown]
              by_cases hindexed : field.binding.indexed = true
              · simp only [if_pos hindexed]
                exact .plan (field.asks_planFor setting.context op raw term.negated) _
              · simp only [if_neg hindexed]
                exact .nothing _ rfl

/-- While features are online, a text is looked up in the words of all features. -/
theorem Store.resolveText_keeping {store : Store} (features : .feature ∉ store.offline)
    (keep : Collection → Bool) (hkeep : keep .feature = true) (content : String) :
    (store.keeping keep).resolveText content = store.resolveText content := by
  have hsearch : (store.keeping keep).searchText content = store.searchText content := by
    rw [(store.online_keeping keep).searchText, searchText]
    simp [checkOnline, features, keeping, hkeep, bind, Except.bind, pure, Except.pure]
  rw [resolveText, resolveText, hsearch]

namespace Lookup.Source

variable {source : Store → Lookup} {store : Store}

/-- While features are online, what is looked up is answered as if the records of the collections that are
offline did not exist. -/
theorem answer_withoutOffline (h : Source source) (features : .feature ∉ store.offline) :
    (source store.withoutOffline).answer = (source store).answer := by
  cases h with
  | nothing lookup => rfl
  | plan hasks label => exact hasks.answer_withoutOffline features label
  | text content =>
      exact congrArg answer
        (Store.resolveText_keeping features store.isOnline (decide_eq_true features) content)

/-- A lookup that fails matches nothing. -/
theorem answer_of_fails (h : Source source) (hfails : (source store).fails = true) :
    (source store).answer = .empty := by
  cases h with
  | nothing lookup hanswer => exact hanswer
  | plan hasks label => exact answer_ofStore_of_fails hfails
  | text content =>
      simp only [Store.resolveText] at hfails ⊢
      cases hsearch : store.searchText content with
      | ok ids =>
          rw [hsearch] at hfails
          exact absurd hfails Bool.false_ne_true
      | error cause => rfl

/-- While features are online, a lookup that does not fail is answered as while all collections are. -/
theorem answer_allOnline (h : Source source) (features : .feature ∉ store.offline)
    (hfails : (source store).fails = false) : (source store.allOnline).answer = (source store).answer := by
  cases h with
  | nothing lookup => rfl
  | plan hasks label => exact hasks.answer_allOnline hfails
  | text content =>
      exact congrArg answer (Store.resolveText_keeping features (fun _ => true) rfl content)

end Lookup.Source

namespace Setting

/-- The lookup of a term fails. -/
def fails (setting : Setting) (term : Term) : Bool :=
  (setting.resolveTerm term).value.fails

/-- While features are online, the answer to a term says the right thing about a feature, if the test of a term
whose lookup fails is taken to hold of no feature. -/
theorem rightAbout_of_offline {setting : Setting} {feature : Feature}
    (consistent : setting.store.Consistent) (features : .feature ∉ setting.store.offline)
    (hmem : feature ∈ setting.store.features) (term : Term) :
    (setting.resolveTerm term).value.answer.RightAbout term.negated feature
      (setting.fails term = false ∧ term.test.Holds setting feature) := by
  have hsource := setting.source_resolveTerm term
  cases hfails : setting.fails term with
  | true =>
      have hempty : (setting.resolveTerm term).value.answer = .empty := hsource.answer_of_fails hfails
      rw [hempty]
      exact Resolved.rightAbout_empty fun h => Bool.false_ne_true h.1.symm
  | false =>
      have hanswer : ((setting.onStore setting.store.allOnline).resolveTerm term).value.answer
          = (setting.resolveTerm term).value.answer := hsource.answer_allOnline features hfails
      have hsame : setting.store.SameAbout setting.store.allOnline feature := ⟨rfl, rfl, rfl⟩
      rw [and_iff_right rfl, ← hanswer, term.test.holds_congr setting hsame]
      have hconsistent : (setting.onStore setting.store.allOnline).store.Consistent :=
        ⟨consistent.distinct, consistent.indexed⟩
      have honline : (setting.onStore setting.store.allOnline).store.Online := fun _ => List.not_mem_nil
      exact rightAbout_resolveTerm hconsistent honline hmem term

end Setting

end FeatureQuery
