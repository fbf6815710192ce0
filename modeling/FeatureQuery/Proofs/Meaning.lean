import FeatureQuery.Engine
import Mathlib.Logic.Basic

/-!
# What queries mean

When a query is true of a feature, said without plans, lookups, sets or the order in which anything is
done. A term is true of a feature if its test holds or it is negated, but not both; a query is true if it has
no terms, or if all terms of one of its alternatives are.

A test looks at the feature itself and at the records that belong to it. It never looks at another feature,
which is what `Query.holds_congr` records: two stores that say the same about a feature agree on every
query.

## Main results

* `Query.Holds`, `Term.Holds`, `Test.Holds`: truth of queries, terms and tests.
* `Engine.Shows`: what a request may show to a caller.
* `Query.holds_congr`: truth depends on the records of the feature only.
-/

namespace FeatureQuery

/-! ### Records of a feature -/

namespace Store

/-- The stages of a feature. -/
def stagesOf (store : Store) (feature : Feature) : List Stage :=
  store.stages.filter fun stage => stage.featureId = feature.id

/-- The gates of a feature. -/
def gatesOf (store : Store) (feature : Feature) : List Gate :=
  store.gates.filter fun gate => gate.featureId = feature.id

/-- The stars on a feature. -/
def starsOf (store : Store) (feature : Feature) : List Star :=
  store.stars.filter fun star => star.featureId = feature.id

/-- Two stores have the same records of a feature. -/
structure SameAbout (store other : Store) (feature : Feature) : Prop where
  stages : store.stagesOf feature = other.stagesOf feature
  gates : store.gatesOf feature = other.gatesOf feature
  stars : store.starsOf feature = other.starsOf feature

end Store

/-! ### Tests of fields -/

/-- One of some values compares with the operand of a literal in a way that an operator accepts. -/
def Literal.ComparesWith (l : Literal) (op : Operator) (values : List Value) : Prop :=
  ∃ operand, l.toValue? = some operand ∧
    ∃ v ∈ values, ∃ o, v.order operand = some o ∧ op.accepts o = true

/-- The values of a record meet a literal. A range is met, whatever the operator is, if one value is at or
above its lower bound and one at or below its upper bound. -/
def Literal.MetBy (op : Operator) (values : List Value) : Literal → Prop
  | .range low high => low.ComparesWith .ge values ∧ high.ComparesWith .le values
  | l => l.ComparesWith op values

/-- The values of a field, record by record: those of the feature itself, or those of each of its stages of
some types. -/
def Binding.valuesOf (binding : Binding) (store : Store) (feature : Feature) : List (List Value) :=
  match binding.target with
  | .primary => [Record.values feature binding.property]
  | .joined stageTypes =>
    ((store.stagesOf feature).filter fun stage => stage.stageType ∈ stageTypes).map fun stage =>
      Record.values stage binding.property

/-- Some record of the feature meets some literal of the value. Of a field that is not indexed this never
holds. -/
def Field.Holds (field : Field) (setting : Setting) (op : Operator) (raw : String) (feature : Feature) :
    Prop :=
  field.binding.indexed = true ∧
    ∃ values ∈ field.binding.valuesOf setting.store feature,
      ∃ l ∈ Store.literalsFor setting.context field raw, l.MetBy op values

/-! ### Tests about the caller -/

/-- A feature has to do with a person in the way that a field about the caller asks for. -/
def CallerField.HoldsFor (field : CallerField) (setting : Setting) (person : Identity)
    (feature : Feature) : Prop :=
  match field with
  | owner => person.email ∈ feature.ownerEmails
  | editor => person.email ∈ feature.editorEmails
  | cc => person.email ∈ feature.ccEmails
  | creator => feature.creatorEmail = some person.email
  | starredBy => ∃ star ∈ setting.store.starsOf feature, star.email = person.email ∧ star.starred = true
  | pendingApprovalBy =>
    ∃ gate ∈ setting.store.gatesOf feature,
      gate.gateType ∈ setting.permissions.gateTypes person ∧ gate.state ∈ Gate.pendingStates
  | recentlyReviewed =>
    ∃ since, setting.context.now.addDays? (-setting.recentDays.toInt) = some since ∧
      ∃ gate ∈ setting.store.gatesOf feature, gate.state ∈ Gate.finalStates ∧
        ∃ resolved, gate.resolvedOn = some resolved ∧ (since.order resolved).isLE = true ∧
          (resolved.order setting.context.now).isLE = true

/-- A feature has to do with the caller. Nothing has to do with an anonymous one. -/
def CallerField.Holds (field : CallerField) (setting : Setting) (feature : Feature) : Prop :=
  ∃ person, setting.context.caller = some person ∧ field.HoldsFor setting person feature

/-! ### Terms and queries -/

/-- A test holds of a feature. A text does if it has words and all are in the feature's texts; a test of an
unknown field never does. -/
def Test.Holds (setting : Setting) (feature : Feature) (test : Test) : Prop :=
  match CallerField.ofTest? test with
  | some identity => identity.Holds setting feature
  | none =>
    match test with
    | .field name op raw => ∃ field, Field.ofName? name = some field ∧ field.Holds setting op raw feature
    | .text content =>
      indexWords content ≠ [] ∧ ∀ word ∈ indexWords content, word ∈ Store.wordsOf feature

/-- A term is true of a feature: its test holds, or it is negated, but not both. -/
def Term.Holds (setting : Setting) (feature : Feature) (term : Term) : Prop :=
  Xor (term.test.Holds setting feature) (term.negated = true)

/-- A query is true of a feature: it has no terms, or all terms of one of its alternatives are true. -/
def Query.Holds (setting : Setting) (feature : Feature) (query : Query) : Prop :=
  query.terms = [] ∨ ∃ clause ∈ query.clauses, ∀ term ∈ clause, term.Holds setting feature

/-- A request may show a feature to its caller. -/
structure Engine.Shows (engine : Engine) (request : Request) (context : Context) (feature : Feature) :
    Prop where
  /-- Deleted features are shown on request only. -/
  deleted : feature.deleted = true → request.visibility.showDeleted = true
  /-- Unlisted features are shown on request, and to those who may see them anyway. -/
  unlisted : feature.unlisted = true →
    request.visibility.showUnlisted = true
      ∨ ∃ person, context.caller = some person ∧ person ∈ engine.permissions.unlisted
  /-- Features for enterprises are shown on request only. -/
  enterprise : feature.featureType = Feature.enterpriseType → request.visibility.showEnterprise = true

/-- The visibility of a request hides exactly what it may not show. -/
theorem Engine.shows_visibilityOf {engine : Engine} {request : Request} {context : Context}
    {feature : Feature} :
    (engine.visibilityOf request context).shows feature = true
      ↔ engine.Shows request context feature := by
  have hcaller : engine.callerSeesUnlisted context = true
      ↔ ∃ person, context.caller = some person ∧ person ∈ engine.permissions.unlisted := by
    rw [callerSeesUnlisted, Option.any_eq_true]
    refine exists_congr fun person => ?_
    rw [Permissions.seesUnlisted, List.contains_iff_mem]
  have himp : ∀ {a b : Bool}, (a || !b) = true ↔ (b = true → a = true) := by
    intro a b
    cases a <;> cases b <;> decide
  rw [Visibility.shows, Bool.and_eq_true, Bool.and_eq_true, himp, himp, himp, Feature.isEnterprise_iff]
  dsimp only [visibilityOf]
  rw [Bool.or_eq_true, hcaller]
  constructor
  · rintro ⟨⟨hdeleted, hunlisted⟩, henterprise⟩
    exact ⟨hdeleted, hunlisted, henterprise⟩
  · intro h
    exact ⟨⟨h.deleted, h.unlisted⟩, h.enterprise⟩

/-! ### What truth depends on -/

section Congruence

variable (setting : Setting) {other : Store} {feature : Feature}

/-- A test about the caller looks at the records of the feature only. -/
theorem CallerField.holds_congr (h : setting.store.SameAbout other feature) (field : CallerField) :
    field.Holds setting feature ↔ field.Holds { setting with store := other } feature := by
  refine exists_congr fun person => and_congr_right fun _ => ?_
  cases field with
  | starredBy => rw [HoldsFor, HoldsFor, h.stars]
  | pendingApprovalBy => rw [HoldsFor, HoldsFor, h.gates]
  | recentlyReviewed => rw [HoldsFor, HoldsFor, h.gates]
  | _ => rfl

/-- A test of a field looks at the records of the feature only. -/
theorem Field.holds_congr (h : setting.store.SameAbout other feature) (field : Field) (op : Operator)
    (raw : String) :
    field.Holds setting op raw feature ↔ field.Holds { setting with store := other } op raw feature := by
  have hvalues : field.binding.valuesOf setting.store feature = field.binding.valuesOf other feature := by
    rw [Binding.valuesOf, Binding.valuesOf, h.stages]
  rw [Holds, Holds, hvalues]

/-- A test looks at the records of the feature only. -/
theorem Test.holds_congr (h : setting.store.SameAbout other feature) (test : Test) :
    test.Holds setting feature ↔ test.Holds { setting with store := other } feature := by
  rw [Holds.eq_def, Holds.eq_def]
  cases CallerField.ofTest? test with
  | some identity => exact identity.holds_congr setting h
  | none =>
      cases test with
      | field name op raw =>
          refine exists_congr fun field => and_congr_right fun _ => ?_
          exact field.holds_congr setting h op raw
      | text content => rfl

/-- **Truth is local.** Two stores that have the same records of a feature agree on every query. -/
theorem Query.holds_congr (h : setting.store.SameAbout other feature) (query : Query) :
    query.Holds setting feature ↔ query.Holds { setting with store := other } feature := by
  have hterm : ∀ term : Term,
      term.Holds setting feature ↔ term.Holds { setting with store := other } feature := by
    intro term
    rw [Term.Holds, Term.Holds, term.test.holds_congr setting h]
  rw [Holds, Holds]
  simp only [hterm]

end Congruence

end FeatureQuery
