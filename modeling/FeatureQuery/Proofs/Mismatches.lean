import FeatureQuery.Proofs.Failures
import FeatureQuery.Proofs.Warnings

/-!
# Requests put valid queries only

A store refuses a query that mentions a property of another collection. No request ever puts such a query, neither
for its terms nor for the set of all features nor for its order, whatever is written in it, and so it neither fails
with such a refusal nor warns of one.

## Main results

* `Engine.not_isMismatch_of_mem_run`: no request warns of a refused query.
* `Engine.puts_valid_queries`: the queries of a request, the plans behind them, and that none is refused.
-/

namespace FeatureQuery

/-! ### Queries that are refused -/

/-- The query was refused because it mentions a property of another collection. -/
def StoreError.isMismatch : StoreError → Bool
  | mismatch .. => true
  | _ => false

/-- The warning tells of a refused query. -/
def Warning.isMismatch (warning : Warning) : Bool :=
  warning.cause?.any StoreError.isMismatch

/-- A valid query passes the check of the store. -/
theorem StoreQuery.checkValid_eq_ok {query : StoreQuery} (valid : query.Valid) : Store.checkValid query = .ok () := by
  rw [Store.checkValid, misplaced?_eq_none_iff.2 valid]

namespace Store

variable {store : Store}

/-- A valid query is not refused. -/
theorem not_isMismatch_of_fetchIds {query : StoreQuery} (valid : query.Valid) {cause : StoreError}
    (h : store.fetchIds query = .error cause) : cause.isMismatch = false := by
  by_cases offline : query.collection ∈ store.offline
  · rw [fetchIds_of_offline valid offline] at h
    rw [← Except.error.inj h]
    rfl
  · rw [fetchIds_eq_ok (StoreQuery.misplaced?_eq_none_iff.2 valid) offline] at h
    exact absurd h (by simp)

/-- A search for a text is not refused. -/
theorem not_isMismatch_of_searchText {text : String} {cause : StoreError}
    (h : store.searchText text = .error cause) : cause.isMismatch = false := by
  rw [searchText, checkOnline] at h
  split at h
  · rw [← Except.error.inj h]
    rfl
  · exact absurd h (by simp [bind, Except.bind, pure, Except.pure])

/-- The order of a specification asks with no query that is refused. -/
theorem not_isMismatch_of_mem_totalOrder {spec : SortSpec} :
    ∀ warning ∈ (store.totalOrder spec).warnings, warning.isMismatch = false := by
  rw [totalOrder]
  cases SortKey.ofName? spec.key with
  | none => exact List.forall_mem_singleton.2 rfl
  | some key =>
      dsimp only
      cases hfetch : store.fetchIds (key.orderQuery spec.descending) with
      | ok order => exact List.forall_mem_nil _
      | error cause =>
          exact List.forall_mem_singleton.2
            (not_isMismatch_of_fetchIds (key.valid_orderQuery spec.descending) hfetch)

/-- The combination of answers asks with no query that is refused. -/
theorem not_isMismatch_of_mem_combine {query : Query} {answers : List Resolved} :
    ∀ warning ∈ (store.combine query answers).warnings, warning.isMismatch = false := by
  have hall : ∀ warning ∈ store.allIds.warnings, warning.isMismatch = false := by
    rw [allIds]
    cases hfetch : store.fetchIds (.all .feature) with
    | ok ids => exact List.forall_mem_nil _
    | error cause =>
        exact List.forall_mem_singleton.2 (not_isMismatch_of_fetchIds (StoreQuery.valid_all .feature) hfetch)
  rw [combine]
  split
  · rwa [Noted.warnings_map]
  · exact List.forall_mem_nil _

end Store

namespace Setting

variable {setting : Setting} {term : Term}

/-- What is wrong with a term is no refused query. -/
theorem Warrants.not_isMismatch {warning : Warning} (h : setting.Warrants term warning) :
    warning.isMismatch = false := by
  cases h with
  | unknown => rfl
  | unindexed => rfl
  | window => rfl

/-- No query of a term is refused. -/
theorem not_isMismatch_of_mem_notes :
    ∀ warning ∈ (setting.resolveTerm term).value.notes, warning.isMismatch = false := by
  intro warning hmem
  obtain ⟨cause, hcause, ⟨query, hquery, hfetch⟩ | ⟨text, hsearch⟩⟩ :=
    (setting.asks_resolveTerm term).exists_cause hmem
  · rw [Warning.isMismatch, hcause]
    exact Store.not_isMismatch_of_fetchIds (setting.valid_queriesOf term query hquery) hfetch
  · rw [Warning.isMismatch, hcause]
    exact Store.not_isMismatch_of_searchText hsearch

/-- No query of any term is refused. -/
theorem not_isMismatch_of_mem_answers {query : Query} :
    ∀ warning ∈ (setting.answers query).warnings, warning.isMismatch = false := by
  intro warning hmem
  rw [warnings_answers, List.mem_append, List.mem_flatMap, List.mem_flatMap] at hmem
  rcases hmem with ⟨term, -, hmem⟩ | ⟨term, -, hmem⟩
  · obtain ⟨note?, hnote, hwarrants⟩ := setting.warnings_resolveTerm term
    rw [hnote, Option.mem_toList] at hmem
    exact ((hwarrants warning).1 hmem).not_isMismatch
  · exact not_isMismatch_of_mem_notes warning hmem

end Setting

/-! ### Requests -/

/-- A shared cache asks the store nothing. -/
theorem SharedCache.not_isMismatch_of_mem_read (cache : SharedCache) (now : Nat) (key : String) :
    ∀ warning ∈ (cache.read now key).warnings, warning.isMismatch = false := by
  rw [read.eq_def]
  split
  · exact List.forall_mem_singleton.2 rfl
  · exact List.forall_mem_nil _

/-- Nothing that is noted while a page is stored is a mismatch. -/
theorem SharedCache.not_isMismatch_of_mem_write (cache : SharedCache) (now : Nat) (key : String) (page : Page) :
    ∀ warning ∈ (cache.write now key page).warnings, warning.isMismatch = false := by
  rw [write.eq_def]
  split
  · exact List.forall_mem_singleton.2 rfl
  · exact List.forall_mem_nil _

namespace Engine

variable {engine : Engine} {request : Request} {context : Context}

/-- Computing a page asks with no query that is refused. -/
theorem not_isMismatch_of_mem_compute :
    ∀ warning ∈ (engine.compute request context).warnings, warning.isMismatch = false := by
  intro warning hmem
  rw [warnings_compute, List.mem_append, List.mem_append] at hmem
  rcases hmem with (hmem | hmem) | hmem
  · exact Setting.not_isMismatch_of_mem_answers warning hmem
  · exact Store.not_isMismatch_of_mem_totalOrder warning hmem
  · exact Store.not_isMismatch_of_mem_combine warning hmem

/-- No request warns of a refused query, with a cache or without one. -/
theorem not_isMismatch_of_mem_run {now : Nat} :
    ∀ warning ∈ (engine.run now request context).warnings, warning.isMismatch = false := by
  intro warning hmem
  rw [run] at hmem
  cases hcache : engine.cacheFor? request with
  | none =>
      rw [hcache] at hmem
      dsimp only at hmem
      rw [Noted.warnings_bind, Noted.warnings_pure, List.append_nil] at hmem
      exact not_isMismatch_of_mem_compute warning hmem
  | some cache =>
      rw [hcache] at hmem
      dsimp only at hmem
      rw [Noted.warnings_bind, Noted.warnings_pure, List.append_nil, runWith, Noted.warnings_bind,
        List.mem_append] at hmem
      -- Either the cache warns, or a page is computed because it has none, and then stored.
      rcases hmem with hmem | hmem
      · exact cache.not_isMismatch_of_mem_read now _ warning hmem
      · split at hmem
        · exact absurd hmem List.not_mem_nil
        · rw [computeInto, Noted.warnings_bind, List.mem_append] at hmem
          rcases hmem with hmem | hmem
          · exact not_isMismatch_of_mem_compute warning hmem
          · split at hmem
            · exact absurd hmem List.not_mem_nil
            · rw [Noted.warnings_bind, Noted.warnings_pure, List.append_nil] at hmem
              exact SharedCache.not_isMismatch_of_mem_write _ now _ _ warning hmem

/-- A request that fails does so because its page cannot be computed. -/
theorem compute_eq_of_run_eq_error {now : Nat} {error : SearchError}
    (h : (engine.run now request context).value.1 = .error error) :
    (engine.compute request context).value = .error error := by
  cases hcache : engine.cacheFor? request with
  | none =>
      rw [run_of_cacheFor?_none now context hcache] at h
      exact h
  | some cache =>
      rw [value_run_of_read hcache] at h
      split at h
      · exact absurd h (by simp)
      · split at h
        · next hcompute => rwa [hcompute]
        · exact absurd h (by simp)

/-- **Requests put valid queries only.** A term asks with its queries, which pass the store's check; so do the query
for all features and that of every sort key. A value is coerced to some literals, each of them a scalar or a range
between scalars, and a range has no others beside it. The plan of any test makes one query of them with equality
or if there is just one, and otherwise one of each; its operands are those of the literals, none left out. And no
request fails or warns because a query was refused. -/
theorem puts_valid_queries :
    (∀ (setting : Setting) (term : Term),
      (setting.resolveTerm term).value.AsksWith setting.store (setting.queriesOf term)
        ∧ ∀ query ∈ setting.queriesOf term, Store.checkValid query = .ok ())
      ∧ Store.checkValid (.all .feature) = .ok ()
      ∧ (∀ (key : SortKey) (descending : Bool), Store.checkValid (key.orderQuery descending) = .ok ())
      ∧ (∀ (context : Context) (raw : String),
        Literal.ofRaw context raw.toList ≠ []
          ∧ ∀ l ∈ Literal.ofRaw context raw.toList,
            l.IsFlat ∧ (l.isRange = true → Literal.ofRaw context raw.toList = [l]))
      ∧ (∀ (field : Field) (context : Context) (op : Operator) (raw : String) (negated : Bool),
        let queries := (field.planFor context op raw negated).queries
        let literals := (Literal.ofRaw context raw.toList).map field.binding.narrow
        (∀ query ∈ queries, Store.checkValid query = .ok ())
          ∧ queries.length = (if op = .eq ∨ literals.length = 1 then 1 else literals.length)
          ∧ queries.map (·.operandsOf field.binding.property)
            = (if op = .eq then [literals.flatMap Literal.operands] else literals.map Literal.operands)
          ∧ ∀ l ∈ literals, l.operands.length = if l.isRange then 2 else 1)
      ∧ ∀ (engine : Engine) (now : Nat) (request : Request) (context : Context),
        (∀ cause, (engine.run now request context).value.1 = .error (.store cause) → cause.isMismatch = false)
          ∧ ∀ warning ∈ (engine.run now request context).warnings, warning.isMismatch = false := by
  refine ⟨fun setting term => ⟨setting.asks_resolveTerm term, ?terms⟩,
    StoreQuery.checkValid_eq_ok (StoreQuery.valid_all .feature),
    fun key descending => StoreQuery.checkValid_eq_ok (key.valid_orderQuery descending),
    fun context raw => ⟨Literal.ofRaw_ne_nil context raw.toList, fun l hl =>
      ⟨Literal.isFlat_of_mem_ofRaw hl, Literal.soleRange_ofRaw context raw.toList l hl⟩⟩,
    fun field context op raw negated => ?plans,
    fun engine now request context => ⟨fun cause h => ?failure, not_isMismatch_of_mem_run⟩⟩
  case terms =>
    exact fun query hquery => StoreQuery.checkValid_eq_ok (setting.valid_queriesOf term query hquery)
  case plans =>
    exact ⟨fun query hquery => StoreQuery.checkValid_eq_ok (field.valid_queriesFor _ _ query hquery),
      field.length_planFor context op raw negated, field.operands_planFor context op raw negated,
      fun l hl => (Field.isFlat_of_mem_literalsFor hl).length_operands⟩
  case failure =>
    obtain ⟨-, hoffline⟩ := compute_eq_error_iff.1 (compute_eq_of_run_eq_error h)
    rw [SearchError.store.inj hoffline]
    rfl

end Engine

end FeatureQuery
