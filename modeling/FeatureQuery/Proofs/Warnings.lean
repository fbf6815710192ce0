import FeatureQuery.Proofs.Answers.Issued
import FeatureQuery.Proofs.SortKeys

/-!
# Warnings of requests

While all collections are online no query of a request fails, so nothing is left to be warned of but what is wrong
with the request itself: a test of a field that does not exist or cannot be filtered on, a window of recent reviews
that starts outside the range of instants, and a sort key that does not exist. There is one warning for each term
with such a test, in the order of the terms, and one for the key. Whatever else is written, with values that do
not fit their fields, is not warned of.

## Main results

* `Setting.Warrants`, `Setting.warnings_resolveTerm`: what is wrong with a term, and that this is noted of it.
* `Engine.warnings_compute`: where the warnings of a request come from.
* `Engine.warnings_run`: the warnings of a request to a store that is online.
-/

namespace FeatureQuery

open FeatureQuery.Text (lowerAscii)

/-! ### Terms -/

/-- The fields that cannot be filtered on. -/
theorem Field.not_indexed_iff {field : Field} :
    ¬ field.binding.indexed = true ↔ field = .name ∨ field = .summary := by
  cases field <;> decide

/-- What is wrong with a term. Nothing is wrong with a field about the caller but the window of recent reviews. -/
inductive Setting.Warrants (setting : Setting) (term : Term) : Warning → Prop
  | unknown {name raw : String} {op : Operator} (hcaller : CallerField.ofTest? term.test = none)
      (htest : term.test = .field name op raw)
      (hname : ∀ field : Field, lowerAscii name.toList ≠ field.spelling.toList) :
      Warrants setting term (.unknownField name)
  | unindexed {name raw : String} {op : Operator} {field : Field} (hcaller : CallerField.ofTest? term.test = none)
      (htest : term.test = .field name op raw) (hname : lowerAscii name.toList = field.spelling.toList)
      (hfield : field = .name ∨ field = .summary) :
      Warrants setting term (.unindexedField field.spelling)
  | window {person : Identity} (hcaller : CallerField.ofTest? term.test = some .recentlyReviewed)
      (hperson : setting.context.caller = some person)
      (hrange : setting.context.now.addDays? (-setting.recentDays.toInt) = none) :
      Warrants setting term (.windowOutOfRange setting.recentDays)

namespace Setting

variable {setting : Setting} {term : Term} {warning : Warning}

/-- What is wrong with a field about the caller. -/
theorem warrants_caller_iff {field : CallerField} (hcaller : CallerField.ofTest? term.test = some field) :
    setting.Warrants term warning
      ↔ field = .recentlyReviewed ∧ (∃ person, setting.context.caller = some person)
        ∧ setting.context.now.addDays? (-setting.recentDays.toInt) = none
        ∧ warning = .windowOutOfRange setting.recentDays := by
  constructor
  · intro h
    cases h with
    | unknown hnone => exact absurd (hcaller.symm.trans hnone) (by simp)
    | unindexed hnone => exact absurd (hcaller.symm.trans hnone) (by simp)
    | window hsome hperson hrange =>
        exact ⟨Option.some.inj (hcaller.symm.trans hsome), ⟨_, hperson⟩, hrange, rfl⟩
  · rintro ⟨rfl, ⟨person, hperson⟩, hrange, rfl⟩
    exact .window hcaller hperson hrange

/-- What is wrong with the test of a field. -/
theorem warrants_field_iff (hcaller : CallerField.ofTest? term.test = none) {name raw : String} {op : Operator}
    (htest : term.test = .field name op raw) :
    setting.Warrants term warning
      ↔ (Field.ofName? name = none ∧ warning = .unknownField name)
        ∨ ∃ field, Field.ofName? name = some field ∧ ¬ field.binding.indexed = true
          ∧ warning = .unindexedField field.spelling := by
  have hnone : Field.ofName? name = none ↔ ∀ field : Field, lowerAscii name.toList ≠ field.spelling.toList := by
    rw [Option.eq_none_iff_forall_ne_some]
    exact forall_congr' fun field => not_congr Field.ofName?_eq_some_iff
  simp only [hnone, Field.ofName?_eq_some_iff, Field.not_indexed_iff]
  constructor
  · intro h
    cases h with
    | unknown _ htest' hname =>
        obtain ⟨rfl, -, -⟩ := Test.field.inj (htest.symm.trans htest')
        exact Or.inl ⟨hname, rfl⟩
    | unindexed _ htest' hname hfield =>
        obtain ⟨rfl, -, -⟩ := Test.field.inj (htest.symm.trans htest')
        exact Or.inr ⟨_, hname, hfield, rfl⟩
    | window hsome => exact absurd (hcaller.symm.trans hsome) (by simp)
  · rintro (⟨hname, rfl⟩ | ⟨field, hname, hfield, rfl⟩)
    · exact .unknown hcaller htest hname
    · exact .unindexed hcaller htest hname hfield

/-- Nothing is wrong with a text. -/
theorem not_warrants_text (hcaller : CallerField.ofTest? term.test = none) {content : String}
    (htest : term.test = .text content) : ¬ setting.Warrants term warning := by
  intro h
  cases h with
  | unknown _ htest' => exact absurd (htest.symm.trans htest') (by simp)
  | unindexed _ htest' => exact absurd (htest.symm.trans htest') (by simp)
  | window hsome => exact absurd (hcaller.symm.trans hsome) (by simp)

/-- **Terms.** What is noted at once about a term is what is wrong with it, and this is one thing at most. -/
theorem warnings_resolveTerm (setting : Setting) (term : Term) :
    ∃ note? : Option Warning, (setting.resolveTerm term).warnings = note?.toList
      ∧ ∀ warning, note? = some warning ↔ setting.Warrants term warning := by
  rw [resolveTerm]
  cases hcaller : CallerField.ofTest? term.test with
  | some field =>
      simp only [warrants_caller_iff hcaller, CallerField.resolve]
      cases setting.context.caller with
      | none => exact ⟨none, rfl, by simp⟩
      | some person =>
          cases field with
          | owner | editor | cc | creator | starredBy => exact ⟨none, rfl, by simp⟩
          | pendingApprovalBy =>
              refine ⟨none, ?_, by simp⟩
              simp only [CallerField.resolveFor]
              split <;> rfl
          | recentlyReviewed =>
              simp only [CallerField.resolveFor_recentlyReviewed]
              cases setting.context.now.addDays? (-setting.recentDays.toInt) with
              | none => exact ⟨some _, rfl, fun warning => by simp [eq_comm (a := warning)]⟩
              | some since => exact ⟨none, rfl, by simp⟩
  | none =>
      cases htest : term.test with
      | text content => exact ⟨none, rfl, fun warning => iff_of_false (by simp) (not_warrants_text hcaller htest)⟩
      | field name op raw =>
          simp only [warrants_field_iff hcaller htest, Store.resolveField]
          cases Field.ofName? name with
          | none => exact ⟨some _, rfl, fun warning => by simp [eq_comm (a := warning)]⟩
          | some field =>
              simp only [Store.resolveKnown]
              by_cases hindexed : field.binding.indexed = true
              · exact ⟨none, by rw [if_pos hindexed]; rfl, by simp [hindexed]⟩
              · exact ⟨some _, by rw [if_neg hindexed]; rfl,
                  fun warning => by simp [hindexed, eq_comm (a := warning)]⟩

end Setting

/-! ### Requests -/

/-- The answers to terms come with what is noted at once, and then what the lookups note. -/
theorem Setting.warnings_answers (setting : Setting) (query : Query) :
    (setting.answers query).warnings
      = (query.terms.flatMap fun term => (setting.resolveTerm term).warnings)
        ++ query.terms.flatMap fun term => (setting.resolveTerm term).value.notes := by
  rw [answers, Noted.warnings_bind, Noted.warnings_mapM, Noted.value_mapM, Lookup.join, Lookup.warnings_joinIn,
    Lookup.flatMap_range, List.flatMap_map]

/-- The warnings of computing a page are those of the answers, of the order and of the combination. -/
theorem Engine.warnings_compute (engine : Engine) (request : Request) (context : Context) :
    (engine.compute request context).warnings
      = ((engine.settingOf context).answers (Query.read request.query)).warnings
        ++ (engine.store.totalOrder (engine.specOf request)).warnings
        ++ (engine.store.combine (Query.read request.query)
          ((engine.settingOf context).answers (Query.read request.query)).value).warnings := by
  rw [compute, Noted.warnings_bind, Noted.warnings_pure, List.append_nil, matchesOf]
  simp [List.append_assoc]

namespace Store.Online

variable {store : Store}

/-- A lookup with valid queries notes nothing. -/
theorem notes_eq_nil (online : store.Online) {queries : List StoreQuery} {lookup : Lookup}
    (h : lookup.AsksWith store queries) (valid : ∀ query ∈ queries, query.Valid) : lookup.notes = [] := by
  rw [List.eq_nil_iff_forall_not_mem]
  intro warning hmem
  obtain ⟨cause, -, ⟨query, hquery, hfetch⟩ | ⟨text, hsearch⟩⟩ := h.exists_cause hmem
  · rw [online.fetchIds (valid query hquery)] at hfetch
    exact absurd hfetch (by simp)
  · rw [online.searchText] at hsearch
    exact absurd hsearch (by simp)

/-- The order notes that its key does not exist. -/
theorem warnings_totalOrder (online : store.Online) (spec : SortSpec) :
    ∃ note? : Option Warning, (store.totalOrder spec).warnings = note?.toList
      ∧ ∀ warning, note? = some warning
        ↔ warning = .unknownSortKey spec.display
          ∧ ∀ key : SortKey, lowerAscii spec.key.toList ≠ key.spelling.toList := by
  have hnone : SortKey.ofName? spec.key = none
      ↔ ∀ key : SortKey, lowerAscii spec.key.toList ≠ key.spelling.toList := by
    rw [Option.eq_none_iff_forall_ne_some]
    exact forall_congr' fun key => not_congr SortKey.ofName?_eq_some_iff
  rw [← hnone, totalOrder]
  cases SortKey.ofName? spec.key with
  | none => exact ⟨some _, rfl, fun warning => by simp [eq_comm (a := warning)]⟩
  | some key =>
      refine ⟨none, ?_, by simp⟩
      dsimp only
      rw [online.fetchIds (key.valid_orderQuery spec.descending)]
      rfl

/-- The combination of answers notes nothing. -/
theorem warnings_combine (online : store.Online) (query : Query) (answers : List Resolved) :
    (store.combine query answers).warnings = [] := by
  have hall : store.allIds.warnings = [] := by
    rw [allIds, online.fetchIds (StoreQuery.valid_all .feature)]
    rfl
  rw [combine]
  split
  · rw [Noted.warnings_map, hall]
  · rfl

end Store.Online

/-- **Warnings are exact.** A request to a store that is online, without a cache, is answered with the warnings that
its terms warrant, in their order, and with one that its sort key does not exist, if it does not; there are no
others. -/
theorem Engine.warnings_run {engine : Engine} (online : engine.store.Online) (hcache : engine.cache = none)
    (now : Nat) (request : Request) (context : Context) :
    ∃ (note? : Term → Option Warning) (sortNote? : Option Warning),
      (∀ term warning, note? term = some warning ↔ (engine.settingOf context).Warrants term warning)
        ∧ (∀ warning, sortNote? = some warning
          ↔ warning = .unknownSortKey (engine.specOf request).display
            ∧ ∀ key : SortKey, lowerAscii (engine.specOf request).key.toList ≠ key.spelling.toList)
        ∧ (engine.run now request context).warnings
          = (Query.read request.query).terms.filterMap note? ++ sortNote?.toList := by
  obtain ⟨sortNote?, hsort, hsortNote⟩ := online.warnings_totalOrder (engine.specOf request)
  choose note? hterm hnote using (engine.settingOf context).warnings_resolveTerm
  refine ⟨note?, sortNote?, hnote, hsortNote, ?_⟩
  have hlookups : ∀ term, ((engine.settingOf context).resolveTerm term).value.notes = [] := fun term =>
    online.notes_eq_nil ((engine.settingOf context).asks_resolveTerm term)
      ((engine.settingOf context).valid_queriesOf term)
  rw [run_of_no_cache now request context hcache, Noted.warnings_map, warnings_compute, Setting.warnings_answers,
    hsort, online.warnings_combine, List.append_nil]
  simp [hterm, hlookups, List.filterMap_eq_flatMap_toList]

/-- Somebody who asks at the start of the first day. -/
def Context.onFirstDay : Context :=
  ⟨(Time.Instant.ofParts? Time.firstDay 0 0).get (by decide), 100, some ⟨"ann"⟩⟩

/-- A request that has something wrong in it wherever that is possible, and also a value that is no number and a
fragment that is no term. -/
def Request.faulty : Request :=
  { Request.ofQuery "foo=1 Name=x is=Recently-Reviewed bar=1 id>=zzz = summary" with
    sort := some (.ofText "-platform") }

/-- The value and the fragment are not warned of. -/
theorem Engine.warnings_run_faulty :
    (Engine.ofFeatures []).store.Online ∧ (Engine.ofFeatures []).cache = none
      ∧ (∃ (note? : Term → Option Warning) (sortNote? : Option Warning),
        (∀ term warning,
            note? term = some warning ↔ ((Engine.ofFeatures []).settingOf .onFirstDay).Warrants term warning)
          ∧ (∀ warning, sortNote? = some warning
            ↔ warning = .unknownSortKey "-platform"
              ∧ ∀ key : SortKey, lowerAscii "platform".toList ≠ key.spelling.toList)
          ∧ ((Engine.ofFeatures []).run 0 .faulty .onFirstDay).warnings
            = (Query.read Request.faulty.query).terms.filterMap note? ++ sortNote?.toList)
      ∧ ((Engine.ofFeatures []).run 0 .faulty .onFirstDay).warnings
        = [.unknownField "foo", .unindexedField "name", .windowOutOfRange 30, .unknownField "bar",
          .unknownSortKey "-platform"] := by
  have online : (Engine.ofFeatures []).store.Online := Store.online_ofRecords _ _ _ _
  refine ⟨online, rfl, ?_, by decide +kernel⟩
  have hspec : (Engine.ofFeatures []).specOf .faulty = ⟨"platform", true⟩ := by decide +kernel
  have hrun := Engine.warnings_run online rfl 0 .faulty .onFirstDay
  rw [hspec] at hrun
  exact hrun

end FeatureQuery
