import FeatureQuery.Proofs.Answers.Offline

/-!
# Queries that terms ask with

A term asks the store with the queries of its plan, or with the query of its field about the caller, and all of
these are valid, since both are made from the table of fields. The plan of a test leaves no value out: the
literals of a value are scalars, or one range between scalars, so each of them has operands, and these are put to
the store in their order.

## Main results

* `Lookup.AsksWith.exists_cause`: a lookup notes nothing but the failures of its queries.
* `Setting.asks_resolveTerm`, `Setting.valid_queriesOf`: the queries that a term asks with, and that they are valid.
* `Field.operands_planFor`, `Field.length_planFor`: the operands in the queries of a plan are those of the literals,
  and how many queries these are.
-/

namespace FeatureQuery

/-! ### Failures and their causes -/

/-- The failure of the store that a warning tells of. -/
def Warning.cause? : Warning → Option StoreError
  | lookupFailed _ _ cause | textLookupFailed _ _ cause | universeFailed _ cause | sortFailed _ _ cause => some cause
  | _ => none

/-- If some queries fail together, one of them fails alone. -/
theorem Store.exists_of_fetchAll_eq_error {store : Store} {queries : List StoreQuery} {cause : StoreError}
    (h : store.fetchAll queries = .error cause) : ∃ query ∈ queries, store.fetchIds query = .error cause := by
  induction queries with
  | nil => exact absurd h (by simp [fetchAll])
  | cons query queries ih =>
      rw [fetchAll] at h
      cases hfetch : store.fetchIds query with
      | error cause' =>
          rw [hfetch] at h
          obtain rfl : cause' = cause := Except.error.inj h
          exact ⟨query, List.mem_cons_self, hfetch⟩
      | ok ids =>
          rw [hfetch] at h
          cases hrest : store.fetchAll queries with
          | error cause' =>
              rw [hrest] at h
              obtain rfl : cause' = cause := Except.error.inj h
              obtain ⟨other, hmem, hother⟩ := ih hrest
              exact ⟨other, List.mem_cons_of_mem _ hmem, hother⟩
          | ok rest =>
              rw [hrest] at h
              exact absurd h (by simp [bind, Except.bind, pure, Except.pure])

/-! ### Lookups and the queries that they ask with -/

/-- A lookup in a store asks with some queries and no other ones. -/
inductive Lookup.AsksWith (store : Store) : List StoreQuery → Lookup → Prop
  | ready (resolved : Resolved) : AsksWith store [] (.ready resolved)
  | known (resolved : Resolved) : AsksWith store [] (.pending (pure (.answered resolved)))
  | plan (plan : Plan) (label : String) : AsksWith store plan.queries (.ofStore store plan label)
  | text (content : String) : AsksWith store [] (store.resolveText content)

/-- A lookup only notes that one of its queries failed, or its search. -/
theorem Lookup.AsksWith.exists_cause {store : Store} {queries : List StoreQuery} {lookup : Lookup}
    (h : lookup.AsksWith store queries) {warning : Warning} (hmem : warning ∈ lookup.notes) :
    ∃ cause, warning.cause? = some cause
      ∧ ((∃ query ∈ queries, store.fetchIds query = .error cause)
        ∨ ∃ text, store.searchText text = .error cause) := by
  cases h with
  | ready resolved => exact absurd hmem List.not_mem_nil
  | known resolved => exact absurd hmem List.not_mem_nil
  | plan plan label =>
      rw [ofStore, Store.lookup] at hmem
      cases hfetch : store.fetchAll plan.queries with
      | ok ids =>
          rw [hfetch] at hmem
          exact absurd hmem List.not_mem_nil
      | error cause =>
          rw [hfetch] at hmem
          rw [List.mem_singleton.1 hmem]
          exact ⟨cause, rfl, Or.inl (Store.exists_of_fetchAll_eq_error hfetch)⟩
  | text content =>
      rw [Store.resolveText] at hmem
      cases hsearch : store.searchText content with
      | ok ids =>
          rw [hsearch] at hmem
          exact absurd hmem List.not_mem_nil
      | error cause =>
          rw [hsearch] at hmem
          rw [List.mem_singleton.1 hmem]
          exact ⟨cause, rfl, Or.inr ⟨content, hsearch⟩⟩

/-- A lookup of one query asks with this query. -/
theorem CallerField.asksWith_ask (store : Store) (field : CallerField) (query : StoreQuery) :
    (field.ask store query).AsksWith store [query] :=
  .plan ⟨[query], false⟩ field.label

/-- The queries that a field about the caller asks with for a person. -/
def CallerField.queriesOf (setting : Setting) (person : Identity) : CallerField → List StoreQuery
  | owner => [byAddress .ownerEmails person]
  | editor => [byAddress .editorEmails person]
  | cc => [byAddress .ccEmails person]
  | creator => [byAddress .creatorEmail person]
  | starredBy => [setStars person]
  | pendingApprovalBy =>
    if (setting.permissions.gateTypes person).isEmpty then []
    else [pendingGates (setting.permissions.gateTypes person)]
  | recentlyReviewed =>
    ((setting.context.now.addDays? (-setting.recentDays.toInt)).map fun since =>
      decidedGates since setting.context.now).toList

/-- The queries that a test of a field asks with. -/
def Field.queriesOf (setting : Setting) (op : Operator) (raw : String) (negated : Bool) (field : Field) :
    List StoreQuery :=
  if field.binding.indexed then (field.planFor setting.context op raw negated).queries else []

namespace Setting

/-- The queries that a term asks with. -/
def queriesOf (setting : Setting) (term : Term) : List StoreQuery :=
  match CallerField.ofTest? term.test with
  | some field => (setting.context.caller.map fun person => field.queriesOf setting person).getD []
  | none =>
    match term.test with
    | .field name op raw =>
      ((Field.ofName? name).map (Field.queriesOf setting op raw term.negated)).getD []
    | .text _ => []

/-- A field about the caller asks with its queries. -/
theorem asks_resolveFor (setting : Setting) (person : Identity) (field : CallerField) :
    (field.resolveFor setting.store setting.permissions setting.recentDays setting.context.now
      person).value.AsksWith setting.store (field.queriesOf setting person) := by
  cases field with
  | owner | editor | cc | creator | starredBy => exact CallerField.asksWith_ask _ _ _
  | pendingApprovalBy =>
      simp only [CallerField.resolveFor, CallerField.queriesOf]
      split
      · exact .known _
      · exact CallerField.asksWith_ask _ _ _
  | recentlyReviewed =>
      rw [CallerField.resolveFor_recentlyReviewed, CallerField.queriesOf]
      cases setting.context.now.addDays? (-setting.recentDays.toInt) with
      | none => exact .ready _
      | some since => exact CallerField.asksWith_ask _ _ _

/-- A term asks with its queries. -/
theorem asks_resolveTerm (setting : Setting) (term : Term) :
    (setting.resolveTerm term).value.AsksWith setting.store (setting.queriesOf term) := by
  rw [queriesOf, resolveTerm]
  cases CallerField.ofTest? term.test with
  | some field =>
      dsimp only
      rw [CallerField.resolve]
      cases setting.context.caller with
      | none => exact .ready _
      | some person => exact setting.asks_resolveFor person field
  | none =>
      dsimp only
      cases term.test with
      | text content => exact .text content
      | field name op raw =>
          dsimp only
          rw [Store.resolveField]
          cases Field.ofName? name with
          | none => exact .ready _
          | some field =>
              rw [Option.map_some, Option.getD_some, Field.queriesOf]
              dsimp only
              rw [Store.resolveKnown]
              split
              · exact .plan _ _
              · exact .ready _

end Setting

/-- The queries of a field about the caller are valid. -/
theorem CallerField.valid_queriesOf (setting : Setting) (person : Identity) (field : CallerField) :
    ∀ query ∈ field.queriesOf setting person, query.Valid := by
  cases field with
  | owner | editor | cc | creator => exact List.forall_mem_singleton.2 (valid_byAddress rfl person)
  | starredBy => exact List.forall_mem_singleton.2 (valid_setStars person)
  | pendingApprovalBy =>
      rw [queriesOf]
      split
      · exact List.forall_mem_nil _
      · exact List.forall_mem_singleton.2 (valid_pendingGates _)
  | recentlyReviewed =>
      rw [queriesOf]
      cases setting.context.now.addDays? (-setting.recentDays.toInt) with
      | none => exact List.forall_mem_nil _
      | some since => exact List.forall_mem_singleton.2 (valid_decidedGates since setting.context.now)

/-- The queries of a term are valid. -/
theorem Setting.valid_queriesOf (setting : Setting) (term : Term) :
    ∀ query ∈ setting.queriesOf term, query.Valid := by
  rw [queriesOf]
  cases CallerField.ofTest? term.test with
  | some field =>
      cases setting.context.caller with
      | none => exact List.forall_mem_nil _
      | some person => exact field.valid_queriesOf setting person
  | none =>
      cases term.test with
      | text content => exact List.forall_mem_nil _
      | field name op raw =>
          dsimp only
          cases Field.ofName? name with
          | none => exact List.forall_mem_nil _
          | some field =>
              rw [Option.map_some, Option.getD_some, Field.queriesOf]
              split
              · exact (field.asks_planFor setting.context op raw term.negated).valid
              · exact List.forall_mem_nil _

/-! ### Literals and their operands -/

namespace Literal

/-- A scalar, or a range between scalars. -/
def IsFlat : Literal → Prop
  | range low high => low.isRange = false ∧ high.isRange = false
  | _ => True

/-- The values that a literal is compared by: the bounds of a range, otherwise its own. -/
def operands : Literal → List Value
  | range low high => low.toValue?.toList ++ high.toValue?.toList
  | l => l.toValue?.toList

/-- A literal that is an operand has itself as its only one. -/
theorem operands_of_toValue? {l : Literal} {v : Value} (h : l.toValue? = some v) : l.operands = [v] := by
  cases l with
  | range low high => exact absurd h (by simp [toValue?])
  | _ => simp [operands, h]

/-- A literal that is no range is a value. -/
theorem exists_toValue? {l : Literal} (h : l.isRange = false) : ∃ v, l.toValue? = some v := by
  rw [← Option.isSome_iff_exists, toValue?_isSome_iff, h]
  rfl

/-- Literals that are no ranges have one operand each. -/
theorem map_operands {literals : List Literal} (h : ∀ l ∈ literals, l.isRange = false) :
    literals.map operands = (literals.filterMap toValue?).map fun v => [v] := by
  induction literals with
  | nil => rfl
  | cons l literals ih =>
      obtain ⟨v, hv⟩ := exists_toValue? (h l List.mem_cons_self)
      rw [List.map_cons, List.filterMap_cons, hv, operands_of_toValue? hv,
        ih fun l hl => h l (List.mem_cons_of_mem _ hl)]
      rfl

/-- A flat literal has all its operands. -/
theorem IsFlat.length_operands {l : Literal} (h : l.IsFlat) : l.operands.length = if l.isRange then 2 else 1 := by
  cases hrange : l.isRange with
  | true =>
      obtain ⟨low, high, rfl⟩ := eq_range_of_isRange hrange
      obtain ⟨v, hv⟩ := exists_toValue? h.1
      obtain ⟨w, hw⟩ := exists_toValue? h.2
      simp [operands, hv, hw]
  | false =>
      obtain ⟨v, hv⟩ := exists_toValue? hrange
      simp [operands_of_toValue? hv]

/-- The literals of a value are flat. -/
theorem isFlat_of_mem_ofRaw {context : Context} {raw : List Char} {l : Literal} (h : l ∈ ofRaw context raw) :
    l.IsFlat := by
  have hscalar : ∀ {l : Literal}, l.isRange = false → l.IsFlat := by
    intro l hl
    cases l with
    | range low high => exact absurd hl (by simp [isRange])
    | _ => exact trivial
  rcases ofRaw_cases context raw with ⟨low, high, -, heq⟩ | ⟨-, ⟨-, heq⟩ | ⟨-, heq⟩⟩
  · rw [heq, List.mem_singleton] at h
    rw [h, ofBounds]
    split
    · exact trivial
    · exact ⟨not_isRange_scalar _ _, not_isRange_scalar _ _⟩
  · rw [heq, List.mem_singleton] at h
    rw [h]
    exact trivial
  · rw [heq] at h
    obtain ⟨item, -, rfl⟩ := List.mem_map.1 h
    exact hscalar (not_isRange_scalar _ _)

end Literal

/-- Narrowing to a field keeps literals flat. -/
theorem Binding.isFlat_narrow (binding : Binding) {l : Literal} (h : l.IsFlat) : (binding.narrow l).IsFlat := by
  cases hrange : l.isRange with
  | true =>
      obtain ⟨low, high, rfl⟩ := Literal.eq_range_of_isRange hrange
      rw [narrow]
      exact ⟨(binding.narrow_isRange low).trans h.1, (binding.narrow_isRange high).trans h.2⟩
  | false =>
      have hnarrow := (binding.narrow_isRange l).trans hrange
      cases hl : binding.narrow l with
      | range low high =>
          rw [hl] at hnarrow
          exact absurd hnarrow (by simp [Literal.isRange])
      | _ => exact trivial

/-! ### Plans -/

/-- The operands of a condition. -/
def Condition.operands : Condition → List Value
  | compare _ operand => [operand]
  | oneOf operands => operands

/-- The operands that a query compares a property with. -/
def StoreQuery.operandsOf (p : Property) (query : StoreQuery) : List Value :=
  (query.filters.filter (·.property = p)).flatMap (·.condition.operands)

namespace Field

/-- The query for all records that a field is found on does not compare its values with anything. -/
theorem operandsOf_base (field : Field) : field.binding.base.operandsOf field.binding.property = [] := by
  cases field <;> rfl

/-- A filter on the property of a field adds its operands. -/
theorem operandsOf_filter (field : Field) (query : StoreQuery) (condition : Condition) :
    (query.filter ⟨field.binding.property, condition⟩).operandsOf field.binding.property
      = query.operandsOf field.binding.property ++ condition.operands := by
  simp [StoreQuery.operandsOf, StoreQuery.filter]

/-- A comparison with a value has it as its only operand. -/
theorem operandsOf_comparison (field : Field) (op : Operator) (v : Value) :
    (field.binding.comparison op v).operandsOf field.binding.property = [v] := by
  rw [Binding.comparison, Filter.compare, operandsOf_filter, operandsOf_base]
  rfl

/-- One literal is put to the store in one query, with any operator. -/
theorem operands_queriesFor_single (field : Field) (op : Operator) {l : Literal} (h : l.IsFlat) :
    (field.binding.queriesFor op [l]).map (·.operandsOf field.binding.property) = [l.operands] := by
  cases hrange : l.isRange with
  | true =>
      obtain ⟨low, high, rfl⟩ := Literal.eq_range_of_isRange hrange
      obtain ⟨v, hv⟩ := Literal.exists_toValue? h.1
      obtain ⟨w, hw⟩ := Literal.exists_toValue? h.2
      rw [Binding.queriesFor, hv, hw]
      dsimp only
      rw [List.map_singleton, Binding.between, Filter.compare, operandsOf_filter, operandsOf_comparison,
        Literal.operands, hv, hw]
      rfl
  | false =>
      obtain ⟨v, hv⟩ := Literal.exists_toValue? hrange
      rw [field.binding.queriesFor_single op hrange, hv, Literal.operands_of_toValue? hv]
      exact congrArg (fun operands => [operands]) (field.operandsOf_comparison op v)

/-- The literals that a test of a field compares with are flat. -/
theorem isFlat_of_mem_literalsFor {field : Field} {context : Context} {raw : String} {l : Literal}
    (h : l ∈ Store.literalsFor context field raw) : l.IsFlat := by
  obtain ⟨coerced, hcoerced, rfl⟩ := List.mem_map.1 h
  exact field.binding.isFlat_narrow (Literal.isFlat_of_mem_ofRaw hcoerced)

/-- **Plans.** With equality one query has the operands of all literals, and otherwise each literal has a query
with its operands, whether or not the test is negated. -/
theorem operands_planFor (field : Field) (context : Context) (op : Operator) (raw : String) (negated : Bool) :
    (field.planFor context op raw negated).queries.map (·.operandsOf field.binding.property)
      = if op = .eq then [(Store.literalsFor context field raw).flatMap Literal.operands]
        else (Store.literalsFor context field raw).map Literal.operands := by
  have hsole := Store.soleRange_literalsFor context field raw
  have hflat : ∀ l ∈ Store.literalsFor context field raw, l.IsFlat := fun l => isFlat_of_mem_literalsFor
  rw [planFor, Binding.plan]
  dsimp only
  generalize Store.literalsFor context field raw = literals at hsole hflat ⊢
  by_cases hlength : literals.length = 1
  · obtain ⟨l, rfl⟩ := List.length_eq_one_iff.1 hlength
    rw [field.operands_queriesFor_single _ (hflat l (List.mem_singleton_self l))]
    simp
  · -- Several literals are no ranges, and the negated test is not planned as a complement.
    have hcan : field.binding.canComplement literals = false := by
      refine Bool.eq_false_iff.2 fun hcan => hlength ?_
      obtain ⟨l, -, rfl, -⟩ := Binding.exists_of_canComplement hcan
      rfl
    have hplain : ∀ l ∈ literals, l.isRange = false := by
      intro l hl
      refine Bool.eq_false_iff.2 fun hrange => hlength ?_
      rw [hsole l hl hrange]
      rfl
    rw [hcan, Bool.and_false, if_neg Bool.false_ne_true, field.binding.queriesFor_several op hlength,
      List.flatMap_def, Literal.map_operands hplain]
    split
    · rw [List.map_singleton, Filter.oneOf, operandsOf_filter, operandsOf_base, ← List.flatMap_def]
      simp [Condition.operands]
    · rw [List.map_map]
      exact List.map_congr_left fun v _ => field.operandsOf_comparison op v

/-- A plan has one query with equality or for one literal, and otherwise as many as there are literals. -/
theorem length_planFor (field : Field) (context : Context) (op : Operator) (raw : String) (negated : Bool) :
    (field.planFor context op raw negated).queries.length
      = if op = .eq ∨ (Store.literalsFor context field raw).length = 1 then 1
        else (Store.literalsFor context field raw).length := by
  have hlength := congrArg List.length (field.operands_planFor context op raw negated)
  rw [List.length_map] at hlength
  rw [hlength]
  by_cases hop : op = .eq
  · rw [if_pos hop, if_pos (Or.inl hop)]
    rfl
  · rw [if_neg hop, List.length_map]
    by_cases hone : (Store.literalsFor context field raw).length = 1
    · rw [if_pos (Or.inr hone), hone]
    · rw [if_neg (not_or.2 ⟨hop, hone⟩)]

end Field

end FeatureQuery
