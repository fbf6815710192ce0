import FeatureQuery.Engine
import FeatureQuery.Log.Report

/-!
# Reports of the engine

What the engine tells about its work on a request, step by step: the warnings that the answer comes with, and
notes on what went as planned. All of it belongs to the scope of the request, apart from the failures of
lookups of terms, which run beside it.

## Main results

* `Setting.warnings_termReports`: what is told about a term has its warnings.
* `Engine.warnings_reports`: the serious ones among the reports on a request are the warnings of its answer.
-/

namespace FeatureQuery

open FeatureQuery.Log (Level Report Scope)

/-! ### Parts -/

/-- A part of the engine, by which its reports are told apart. -/
inductive Part where
  | engine | resolver | identity | sorter | combinator | visibility | store
  deriving DecidableEq

namespace Part

/-- The target of a part's reports. -/
def target : Part → String
  | engine => "radar_search::search::engine"
  | resolver => "radar_search::search::resolver"
  | identity => "radar_search::search::identity"
  | sorter => "radar_search::search::sorter"
  | combinator => "radar_search::search::combinator"
  | visibility => "radar_search::search::visibility"
  | store => "radar_search::backends::memory::store"

/-- A note on what went as planned. -/
def note (part : Part) (scope : Scope) (message : String) (details : Log.Details) : Report :=
  ⟨.debug, part.target, some scope, message, details⟩

end Part

/-! ### Warnings -/

namespace Warning

/-- The part that a warning comes from. -/
def part : Warning → Part
  | unknownField _ | unindexedField _ | lookupFailed .. | textLookupFailed .. => .resolver
  | universeFailed .. | lookupCrashed => .combinator
  | sortFailed .. | unknownSortKey _ => .sorter
  | windowOutOfRange _ => .identity
  | cacheReadFailed .. | cacheWriteFailed .. => .engine

/-- The warning comes from a lookup that runs beside the request. -/
def isAside : Warning → Bool
  | lookupFailed .. | textLookupFailed .. => true
  | _ => false

/-- The report of a warning. -/
def report (scope : Scope) (warning : Warning) : Report :=
  ⟨.warn, warning.part.target, if warning.isAside then none else some scope, warning.message,
   warning.details⟩

end Warning

/-- The reports of what was noted with a value. -/
def Noted.reports {α : Type} (scope : Scope) (noted : Noted α) : List Report :=
  noted.warnings.map (·.report scope)

/-- The reports that are warnings. -/
def seriousOnes (reports : List Report) : List Report :=
  reports.filter fun report => report.level == .warn

/-- The serious reports of two parts are those of each. -/
@[simp] theorem seriousOnes_append (xs ys : List Report) :
    seriousOnes (xs ++ ys) = seriousOnes xs ++ seriousOnes ys :=
  List.filter_append xs ys

/-- All reports of warnings are serious. -/
@[simp] theorem seriousOnes_map_report (scope : Scope) (warnings : List Warning) :
    seriousOnes (warnings.map (·.report scope)) = warnings.map (·.report scope) :=
  List.filter_eq_self.2 fun report mem => by
    obtain ⟨warning, _, rfl⟩ := List.mem_map.1 mem
    rfl

/-- So the reports of what is noted are all serious. -/
@[simp] theorem seriousOnes_reports {α : Type} (scope : Scope) (noted : Noted α) :
    seriousOnes (noted.reports scope) = noted.reports scope :=
  seriousOnes_map_report scope noted.warnings

/-- Where there are no reports, none are serious. -/
@[simp] theorem seriousOnes_nil : seriousOnes [] = [] := rfl

/-- A note is not serious. -/
@[simp] theorem seriousOnes_note (part : Part) (scope : Scope) (message : String) (details : Log.Details)
    (reports : List Report) :
    seriousOnes (part.note scope message details :: reports) = seriousOnes reports := rfl

/-! ### Terms -/

namespace Setting

/-- What is told about a term about the caller. -/
def callerNotes (setting : Setting) (scope : Scope) (field : CallerField) : List Report :=
  if setting.context.isAnonymous then
    [Part.identity.note scope "Anonymous caller, identity field matches nothing" [("field", field.label)]]
  else []

/-- What is told about a test of a field. -/
def fieldNotes (setting : Setting) (scope : Scope) (name : String) (op : Operator) (raw : String)
    (negated : Bool) : List Report :=
  match (Field.ofName? name).filter (·.binding.indexed) with
  | none => []
  | some field =>
    let literals := Store.literalsFor setting.context field raw
    let plan := field.binding.plan op literals negated
    [Part.resolver.note scope "Dispatching field lookup"
      [("field", field.spelling), ("operator", op.symbol), ("values", toString literals.length),
       ("queries", toString plan.queries.length), ("complemented", toString plan.complemented)]]

/-- What is told about a term that is looked up. -/
def termNotes (setting : Setting) (scope : Scope) (term : Term) : List Report :=
  match CallerField.ofTest? term.test with
  | some field => setting.callerNotes scope field
  | none =>
    match term.test with
    | .field name op raw => setting.fieldNotes scope name op raw term.negated
    | .text content => [Part.resolver.note scope "Dispatching text lookup" [("text", content)]]

/-- All that is told about a term before its lookup runs. -/
def termReports (setting : Setting) (scope : Scope) (term : Term) : List Report :=
  (setting.resolveTerm term).reports scope ++ setting.termNotes scope term

/-- The notes about a term are not. -/
theorem seriousOnes_termNotes (setting : Setting) (scope : Scope) (term : Term) :
    seriousOnes (setting.termNotes scope term) = [] := by
  unfold termNotes callerNotes fieldNotes
  repeat' split
  all_goals rfl

/-- The serious reports about terms are the warnings of their lookups. -/
theorem warnings_termReports (setting : Setting) (scope : Scope) (terms : List Term) :
    seriousOnes (terms.flatMap (setting.termReports scope))
      = (terms.mapM setting.resolveTerm).reports scope := by
  induction terms with
  | nil => rfl
  | cons term terms ih =>
    rw [List.flatMap_cons, seriousOnes_append, ih, termReports, seriousOnes_append,
      seriousOnes_termNotes, seriousOnes_reports, List.append_nil, List.mapM_cons]
    simp [Noted.reports]

end Setting

/-! ### Lookups -/

namespace Store

/-- What is told about a lookup that is answered. -/
def lookupNotes (store : Store) (scope : Scope) (query : StoreQuery) (outcome : Nat → Report) :
    List Report :=
  match store.fetchIds query with
  | .error _ => []
  | .ok ids =>
    [Part.store.note scope "Memory store lookup"
      [("collection", query.collection.name), ("filters", toString query.filters.length),
       ("matched", toString ids.length)],
     outcome ids.length]

/-- What is told about the order of a specification. -/
def orderReports (store : Store) (scope : Scope) (spec : SortSpec) : List Report :=
  (store.totalOrder spec).reports scope ++
    match SortKey.ofName? spec.key with
    | none => []
    | some key => store.lookupNotes scope (key.orderQuery spec.descending) fun ranked =>
      Part.sorter.note scope "Fetched sort order" [("sort", spec.display), ("ranked", toString ranked)]

/-- What is told about the combination of answers. -/
def combineReports (store : Store) (scope : Scope) (query : Query) (answers : List Resolved) :
    List Report :=
  (store.combine query answers).reports scope ++
    if query.needsAll answers then
      store.lookupNotes scope (.all .feature) fun count =>
        Part.combinator.note scope "Materialized feature universe" [("count", toString count)]
    else []

/-- The notes about a query of the store are not serious, if its outcome is told as a note. -/
theorem seriousOnes_lookupNotes (store : Store) (scope : Scope) (query : StoreQuery)
    {outcome : Nat → Report} (h : ∀ n, (outcome n).level = .debug) :
    seriousOnes (store.lookupNotes scope query outcome) = [] := by
  unfold lookupNotes
  split
  · rfl
  · simp [seriousOnes, h, Part.note]

/-- The serious reports about an order are its warnings. -/
theorem warnings_orderReports (store : Store) (scope : Scope) (spec : SortSpec) :
    seriousOnes (store.orderReports scope spec) = (store.totalOrder spec).reports scope := by
  rw [orderReports, seriousOnes_append, seriousOnes_reports]
  split
  · exact List.append_nil _
  · rw [seriousOnes_lookupNotes _ _ _ fun _ => rfl, List.append_nil]

/-- The serious reports about combining are its warnings. -/
theorem warnings_combineReports (store : Store) (scope : Scope) (query : Query)
    (answers : List Resolved) :
    seriousOnes (store.combineReports scope query answers)
      = (store.combine query answers).reports scope := by
  rw [combineReports, seriousOnes_append, seriousOnes_reports]
  split
  · rw [seriousOnes_lookupNotes _ _ _ fun _ => rfl, List.append_nil]
  · exact List.append_nil _

end Store

/-! ### Requests -/

namespace Engine

/-- The scope of a request. -/
def scopeOf (request : Request) : Scope :=
  ⟨"process_query", .info, Part.engine.target,
   [("query", request.query), ("backend", Text.quote Store.backendName)],
   [("query", request.query), ("backend", Store.backendName)]⟩

/-- What is told about the page of a request. -/
def pageNotes (engine : Engine) (request : Request) (context : Context) : List Report :=
  let ids := (engine.matchesOf request context).value
  let counted := toString ids.length
  Part.engine.note (scopeOf request) "Combined and sorted"
      [("matched", counted), ("sort", (engine.specOf request).display)] ::
    match (engine.compute request context).value with
    | .error _ => []
    | .ok page =>
      [Part.visibility.note (scopeOf request) "Applied visibility and pagination"
        [("matched", counted), ("visible", toString page.total.toNat),
         ("returned", toString page.entries.length)]]

/-- What is told while a page is computed. -/
def computeReports (engine : Engine) (request : Request) (context : Context) : List Report :=
  let scope := scopeOf request
  let query := Query.read request.query
  let setting := engine.settingOf context
  let lookups := (query.terms.mapM setting.resolveTerm).value
  let answers := Lookup.join lookups
  [Part.engine.note scope "Parsed query"
      [("clauses", toString query.clauses.length), ("terms", toString query.terms.length)]]
    ++ query.terms.flatMap (setting.termReports scope)
    ++ answers.reports scope
    ++ engine.store.orderReports scope (engine.specOf request)
    ++ engine.store.combineReports scope query answers.value
    ++ engine.pageNotes request context

/-- What is told about a search in a cache. -/
def cacheNotes (cache : SharedCache) (now : Nat) (key : String) (scope : Scope) : List Report :=
  let found := cache.read now key
  let details := [("cache", Text.quote cache.name)]
  found.reports scope ++
    if found.value.1.isSome then [Part.engine.note scope "Cache hit" details]
    else if found.warnings.isEmpty then [Part.engine.note scope "Cache miss" details]
    else []

/-- What is told about the storing of a page, if there is one. -/
def storeReports (cache : SharedCache) (now : Nat) (key : String) (scope : Scope) :
    Except SearchError Page → List Report
  | .error _ => []
  | .ok page => (cache.write now key page).reports scope

/-- All that is told about a request at a moment. -/
def reports (engine : Engine) (now : Nat) (request : Request) (context : Context) : List Report :=
  match engine.cacheFor? request with
  | none => engine.computeReports request context
  | some cache =>
    let scope := scopeOf request
    let key := engine.keyOf request
    cacheNotes cache now key scope ++
      if (cache.read now key).value.1.isSome then []
      else
        engine.computeReports request context
          ++ storeReports (cache.read now key).value.2 now key scope
            (engine.compute request context).value

/-- The notes about a page are not serious. -/
theorem seriousOnes_pageNotes (engine : Engine) (request : Request) (context : Context) :
    seriousOnes (engine.pageNotes request context) = [] := by
  rw [pageNotes, seriousOnes_note]
  split <;> rfl

/-- The serious reports about computing a page are its warnings. -/
theorem warnings_computeReports (engine : Engine) (request : Request) (context : Context) :
    seriousOnes (engine.computeReports request context)
      = (engine.compute request context).reports (scopeOf request) := by
  simp only [computeReports, List.cons_append, List.nil_append, seriousOnes_note, seriousOnes_append,
    Setting.warnings_termReports, seriousOnes_reports, Store.warnings_orderReports,
    Store.warnings_combineReports, seriousOnes_pageNotes, List.append_nil]
  simp [Noted.reports, compute, matchesOf, Setting.answers, List.append_assoc]

/-- The serious reports about reading the cache are its warnings. -/
theorem warnings_cacheNotes (cache : SharedCache) (now : Nat) (key : String) (scope : Scope) :
    seriousOnes (cacheNotes cache now key scope) = (cache.read now key).reports scope := by
  rw [cacheNotes, seriousOnes_append, seriousOnes_reports]
  split
  · exact List.append_nil _
  · split <;> exact List.append_nil _

/-- **Reports.** The serious reports about a request are its warnings, in the same order. -/
theorem warnings_reports (engine : Engine) (now : Nat) (request : Request) (context : Context) :
    seriousOnes (engine.reports now request context)
      = (engine.run now request context).reports (scopeOf request) := by
  unfold reports run
  cases engine.cacheFor? request with
  | none => simp [warnings_computeReports, Noted.reports]
  | some cache =>
    simp only [seriousOnes_append, warnings_cacheNotes, runWith]
    cases cache.read now (engine.keyOf request) with
    | mk found warnings =>
      obtain ⟨page, after⟩ := found
      cases page with
      | some page => simp [Noted.reports]
      | none =>
        cases result : (engine.compute request context).value <;>
          simp [Noted.reports, warnings_computeReports, computeInto, storeReports, result]

end Engine

end FeatureQuery
