import FeatureQuery.Proofs.Joining
import FeatureQuery.Proofs.Literal.Reading
import FeatureQuery.Proofs.Meaning
import FeatureQuery.Proofs.Store.Selection

/-!
# Answers to tests of fields

A plan of a test selects the features that the test holds of. Where the plan is complemented it selects
exactly those that the test does not hold of, since then every feature has one value for the property and
that value compares with the operand. What is said about an answer is the same in both cases once its mark is
taken into account.

## Main results

* `Field.mem_select_queriesFor_iff`, `Field.select_queriesFor_iff`: the queries of a test select the ids, and
  among them the features, that it holds of.
* `Field.complement_iff`: a complemented plan selects the features that the test does not hold of.
* `Resolved.RightAbout`: an answer says the right thing about a feature.
* `Field.rightAbout_resolveKnown`: the answer to a test of a known field is right.
-/

namespace FeatureQuery

/-! ### Filters and literals -/

/-- A comparison accepts the values that a literal compares with in the same way. -/
theorem Filter.accepts_compare_iff {p : Property} {op : Operator} {operand : Value}
    {values : List Value} :
    (Filter.compare p op operand).accepts values = true
      ↔ ∃ v ∈ values, ∃ o, v.order operand = some o ∧ op.accepts o = true := by
  rw [accepts_iff]
  refine exists_congr fun v => and_congr_right fun _ => ?_
  rw [Filter.compare, Condition.holds, Option.any_eq_true]

/-- One of several operands is equal to a value exactly if the comparison with one of them is. -/
theorem Filter.accepts_oneOf_iff {p : Property} {operands : List Value} {values : List Value} :
    (Filter.oneOf p operands).accepts values = true
      ↔ ∃ operand ∈ operands, ∃ v ∈ values, v.order operand = some .eq := by
  rw [accepts_iff]
  simp only [Filter.oneOf, Condition.holds, List.any_eq_true, beq_iff_eq]
  constructor
  · rintro ⟨v, hv, operand, hoperand, heq⟩
    exact ⟨operand, hoperand, v, hv, heq⟩
  · rintro ⟨operand, hoperand, v, hv, heq⟩
    exact ⟨v, hv, operand, hoperand, heq⟩

/-- One integer is among several exactly if it is equal to one of them. -/
theorem Filter.accepts_oneOf_int_iff (p : Property) (codes : List Int64) (n : Int64) :
    (Filter.oneOf p (codes.map .int)).accepts [.int n] = true ↔ n ∈ codes := by
  rw [accepts_oneOf_iff]
  simp only [List.mem_map, exists_exists_and_eq_and, List.mem_singleton, exists_eq_left,
    Value.int_order_eq_iff]
  constructor
  · rintro ⟨code, hcode, heq⟩
    rwa [heq]
  · intro hcode
    exact ⟨n, hcode, rfl⟩

/-- Equality with a text accepts values that have the text among them. -/
theorem Filter.accepts_eq_text_iff {p : Property} {text : String} {values : List Value}
    (htext : ∀ v ∈ values, v.kind = .text) :
    (Filter.compare p .eq (.text text)).accepts values = true ↔ .text text ∈ values := by
  rw [accepts_compare_iff]
  constructor
  · rintro ⟨v, hv, o, ho, haccepts⟩
    obtain ⟨s, rfl⟩ := Value.eq_text_of_kind (htext v hv)
    have heq : o = .eq := by cases o <;> first | rfl | exact absurd haccepts (by decide)
    rw [heq, Value.text_order_eq_iff] at ho
    rwa [← ho]
  · intro hmem
    exact ⟨_, hmem, .eq, Value.text_order_eq_iff.2 rfl, rfl⟩

namespace Literal

/-- A range has two bounds. -/
theorem eq_range_of_isRange {l : Literal} (h : l.isRange = true) : ∃ low high, l = .range low high := by
  cases l with
  | range low high => exact ⟨low, high, rfl⟩
  | _ => exact absurd h (by simp [isRange])

/-- A literal that is no range is met as it compares. -/
theorem metBy_of_not_isRange {l : Literal} (h : l.isRange = false) (op : Operator)
    (values : List Value) : l.MetBy op values ↔ l.ComparesWith op values := by
  cases l with
  | range low high => exact absurd h (by simp [isRange])
  | _ => rfl

end Literal

/-- A range among the literals of a value is the only one. -/
theorem Store.soleRange_literalsFor (context : Context) (field : Field) (raw : String) :
    Literal.SoleRange (literalsFor context field raw) := by
  intro l hl hrange
  obtain ⟨l', hl', rfl⟩ := List.mem_map.1 hl
  rw [Binding.narrow_isRange] at hrange
  rw [literalsFor, Literal.soleRange_ofRaw context raw.toList l' hl' hrange]
  rfl

/-! ### Plans -/

/-- A stage is of one of some types and passes some filters exactly if it passes them all. -/
theorem Stage.passes_types_iff (stage : Stage) (types : List Int64) (filters : List Filter) :
    Record.passes stage (.oneOf .stageType (types.map .int) :: filters) = true
      ↔ stage.stageType ∈ types ∧ Record.passes stage filters = true := by
  rw [← Filter.accepts_oneOf_int_iff .stageType]
  exact Iff.of_eq (Bool.and_eq_true _ _)

/-- The values of a field under an id, record by record: those of the features with the id, or those of each of
the stages of some types that belong to it. -/
def Binding.valuesUnder (binding : Binding) (store : Store) (id : Int64) : List (List Value) :=
  match binding.target with
  | .primary =>
    (store.features.filter fun feature => feature.id = id).map fun feature =>
      Record.values feature binding.property
  | .joined stageTypes =>
    (store.stages.filter fun stage => stage.featureId = id ∧ stage.stageType ∈ stageTypes).map fun stage =>
      Record.values stage binding.property

section Plans

variable {store : Store} {id : Int64}

/-- Filters on the property of a field select the ids that have a record which passes them. -/
theorem Field.select_base_iff (field : Field) (query : StoreQuery) (filters : List Filter)
    (hquery : query = { field.binding.base with filters := field.binding.base.filters ++ filters })
    (hfilters : ∀ f ∈ filters, f.property = field.binding.property) :
    id ∈ store.select query
      ↔ ∃ values ∈ field.binding.valuesUnder store id, ∀ f ∈ filters, f.accepts values = true := by
  have hpasses : ∀ {ρ : Type} [Record ρ] (record : ρ), Record.passes record filters = true
      ↔ ∀ f ∈ filters, f.accepts (Record.values record field.binding.property) = true := by
    intro ρ _ record
    rw [Record.passes, List.all_eq_true]
    exact forall₂_congr fun f hf => by rw [hfilters f hf]
  subst hquery
  cases htarget : field.binding.target with
  | primary =>
      have hvalues : field.binding.valuesUnder store id
          = (store.features.filter fun feature => feature.id = id).map fun feature =>
              Record.values feature field.binding.property := by
        rw [Binding.valuesUnder, htarget]
      have hselect : store.select { field.binding.base with
          filters := field.binding.base.filters ++ filters }
          = Record.select store.features ⟨.feature, filters, none⟩ := by rw [Binding.base, htarget]; rfl
      rw [hselect, hvalues, Record.mem_select_of_unordered rfl]
      simp only [List.mem_map, exists_exists_and_eq_and, List.mem_filter, decide_eq_true_eq, ← hpasses]
      refine exists_congr fun feature => ?_
      constructor
      · rintro ⟨hmem, hpass, hid⟩
        exact ⟨⟨hmem, hid⟩, hpass⟩
      · rintro ⟨⟨hmem, hid⟩, hpass⟩
        exact ⟨hmem, hpass, hid⟩
  | joined stageTypes =>
      have hvalues : field.binding.valuesUnder store id
          = (store.stages.filter fun stage => stage.featureId = id ∧ stage.stageType ∈ stageTypes).map
              fun stage => Record.values stage field.binding.property := by
        rw [Binding.valuesUnder, htarget]
      have hselect : store.select { field.binding.base with
          filters := field.binding.base.filters ++ filters }
          = Record.select store.stages
              ⟨.stage, .oneOf .stageType (stageTypes.map .int) :: filters, none⟩ := by
        rw [Binding.base, htarget]; rfl
      rw [hselect, hvalues, Record.mem_select_of_unordered rfl]
      simp only [List.mem_map, exists_exists_and_eq_and, List.mem_filter, decide_eq_true_eq, ← hpasses]
      refine exists_congr fun stage => ?_
      rw [stage.passes_types_iff]
      constructor
      · rintro ⟨hstage, ⟨ht, hpass⟩, hid⟩
        exact ⟨⟨hstage, hid, ht⟩, hpass⟩
      · rintro ⟨⟨hstage, hid, ht⟩, hpass⟩
        exact ⟨hstage, ⟨ht, hpass⟩, hid⟩

/-- One comparison selects the ids that have a record with a value that compares so. -/
theorem Field.select_comparison_iff (field : Field) (op : Operator) (operand : Value) :
    id ∈ store.select (field.binding.comparison op operand)
      ↔ ∃ values ∈ field.binding.valuesUnder store id,
          ∃ v ∈ values, ∃ o, v.order operand = some o ∧ op.accepts o = true := by
  rw [field.select_base_iff (field.binding.comparison op operand)
    [.compare field.binding.property op operand] rfl
    fun f hf => by rw [List.mem_singleton.1 hf]; rfl]
  simp only [List.forall_mem_singleton, Filter.accepts_compare_iff]

/-- The query for a range selects the ids that have a record within it. -/
theorem Field.select_between_iff (field : Field) (low high : Value) :
    id ∈ store.select (field.binding.between low high)
      ↔ ∃ values ∈ field.binding.valuesUnder store id,
          (∃ v ∈ values, ∃ o, v.order low = some o ∧ Operator.ge.accepts o = true)
            ∧ ∃ v ∈ values, ∃ o, v.order high = some o ∧ Operator.le.accepts o = true := by
  rw [field.select_base_iff (field.binding.between low high)
    [.compare field.binding.property .ge low, .compare field.binding.property .le high]
    (by simp [Binding.between, Binding.comparison, StoreQuery.filter])
    fun f hf => by
      rcases List.mem_cons.1 hf with rfl | hf
      · rfl
      · rw [List.mem_singleton.1 hf]; rfl]
  simp only [List.forall_mem_cons, List.not_mem_nil, false_implies, implies_true, and_true,
    Filter.accepts_compare_iff]

/-- The query for one of several operands selects the ids that have a record with one of them. -/
theorem Field.select_oneOf_iff (field : Field) (operands : List Value) :
    id ∈ store.select (field.binding.base.filter (.oneOf field.binding.property operands))
      ↔ ∃ values ∈ field.binding.valuesUnder store id,
          ∃ operand ∈ operands, ∃ v ∈ values, v.order operand = some .eq := by
  rw [field.select_base_iff (field.binding.base.filter (.oneOf field.binding.property operands))
    [.oneOf field.binding.property operands] rfl
    fun f hf => by rw [List.mem_singleton.1 hf]; rfl]
  simp only [List.forall_mem_singleton, Filter.accepts_oneOf_iff]

/-- A literal that is no range asks for its comparison, if it is an operand at all. -/
theorem Binding.queriesFor_single (binding : Binding) (op : Operator) {l : Literal}
    (h : l.isRange = false) :
    binding.queriesFor op [l] = (l.toValue?.map (binding.comparison op)).toList := by
  cases l with
  | range low high => exact absurd h (by simp [Literal.isRange])
  | _ => rfl

/-- A range asks for the values between its bounds. -/
theorem Binding.mem_queriesFor_range {binding : Binding} {op : Operator} {low high : Literal}
    {query : StoreQuery} :
    query ∈ binding.queriesFor op [.range low high]
      ↔ ∃ l h, low.toValue? = some l ∧ high.toValue? = some h ∧ query = binding.between l h := by
  rw [queriesFor]
  cases low.toValue? with
  | none => simp
  | some l =>
      cases high.toValue? with
      | none => simp
      | some h => simp

/-- Unless there is exactly one, the literals that are operands are asked for together. -/
theorem Binding.queriesFor_several (binding : Binding) (op : Operator) {literals : List Literal}
    (h : literals.length ≠ 1) :
    binding.queriesFor op literals
      = if op = .eq then
          [binding.base.filter (.oneOf binding.property (literals.filterMap Literal.toValue?))]
        else (literals.filterMap Literal.toValue?).map (binding.comparison op) := by
  rw [queriesFor.eq_def]
  split
  · exact absurd rfl h
  · exact absurd rfl h
  · rfl

/-- Several operands select the ids that have a record with a value for any of them. -/
theorem Field.select_operands_iff (field : Field) (op : Operator) (operands : List Value) :
    (∃ query ∈ (if op = .eq then [field.binding.base.filter (.oneOf field.binding.property operands)]
        else operands.map (field.binding.comparison op)), id ∈ store.select query)
      ↔ ∃ values ∈ field.binding.valuesUnder store id, ∃ operand ∈ operands,
          ∃ v ∈ values, ∃ o, v.order operand = some o ∧ op.accepts o = true := by
  by_cases hop : op = .eq
  · have haccepts : ∀ o : Ordering, op.accepts o = true ↔ o = .eq := by
      intro o
      rw [hop]
      cases o <;> decide
    rw [if_pos hop]
    simp only [List.mem_singleton, exists_eq_left, field.select_oneOf_iff, haccepts,
      exists_eq_right]
  · rw [if_neg hop]
    simp only [List.mem_map, exists_exists_and_eq_and, field.select_comparison_iff]
    constructor
    · rintro ⟨operand, hoperand, values, hvalues, hv⟩
      exact ⟨values, hvalues, operand, hoperand, hv⟩
    · rintro ⟨values, hvalues, operand, hoperand, hv⟩
      exact ⟨operand, hoperand, values, hvalues, hv⟩

/-- **The queries of a test** select the ids that have a record that meets one of the literals. -/
theorem Field.mem_select_queriesFor_iff (field : Field) (op : Operator) {literals : List Literal}
    (hsole : Literal.SoleRange literals) :
    (∃ query ∈ field.binding.queriesFor op literals, id ∈ store.select query)
      ↔ ∃ values ∈ field.binding.valuesUnder store id, ∃ l ∈ literals, l.MetBy op values := by
  have hplain : (∀ l ∈ literals, l.isRange = false) →
      ((∃ values ∈ field.binding.valuesUnder store id, ∃ l ∈ literals, l.MetBy op values)
        ↔ ∃ values ∈ field.binding.valuesUnder store id,
            ∃ operand ∈ literals.filterMap Literal.toValue?,
              ∃ v ∈ values, ∃ o, v.order operand = some o ∧ op.accepts o = true) := by
    intro hnone
    refine exists_congr fun values => and_congr_right fun _ => ?_
    simp only [List.mem_filterMap]
    constructor
    · rintro ⟨l, hl, hmet⟩
      obtain ⟨operand, hoperand, hv⟩ := (Literal.metBy_of_not_isRange (hnone l hl) op values).1 hmet
      exact ⟨operand, ⟨l, hl, hoperand⟩, hv⟩
    · rintro ⟨operand, ⟨l, hl, hoperand⟩, hv⟩
      exact ⟨l, hl, (Literal.metBy_of_not_isRange (hnone l hl) op values).2 ⟨operand, hoperand, hv⟩⟩
  by_cases hlength : literals.length = 1
  · obtain ⟨l, rfl⟩ := List.length_eq_one_iff.1 hlength
    cases hrange : l.isRange with
    | false =>
        rw [hplain fun k hk => by rwa [List.mem_singleton.1 hk],
          field.binding.queriesFor_single op hrange]
        cases hoperand : l.toValue? with
        | none => simp [hoperand]
        | some operand => simp [hoperand, field.select_comparison_iff]
    | true =>
        obtain ⟨low, high, rfl⟩ := Literal.eq_range_of_isRange hrange
        simp only [Binding.mem_queriesFor_range, List.mem_singleton, exists_eq_left, Literal.MetBy,
          Literal.ComparesWith]
        constructor
        · rintro ⟨query, ⟨l, u, hl, hu, rfl⟩, hselect⟩
          obtain ⟨values, hvalues, hlow, hhigh⟩ := (field.select_between_iff l u).1 hselect
          exact ⟨values, hvalues, ⟨l, hl, hlow⟩, ⟨u, hu, hhigh⟩⟩
        · rintro ⟨values, hvalues, ⟨l, hl, hlow⟩, ⟨u, hu, hhigh⟩⟩
          exact ⟨_, ⟨l, u, hl, hu, rfl⟩,
            (field.select_between_iff l u).2 ⟨values, hvalues, hlow, hhigh⟩⟩
  · have hnone : ∀ l ∈ literals, l.isRange = false := by
      intro l hl
      by_contra hrange
      exact hlength (congrArg List.length (hsole l hl (by simpa using hrange)))
    rw [hplain hnone, field.binding.queriesFor_several op hlength]
    exact field.select_operands_iff op _

/-- In a consistent store, the values under the id of a feature are the values of the feature. -/
theorem Binding.mem_valuesUnder_iff (binding : Binding) (h : store.Consistent) {feature : Feature}
    (hmem : feature ∈ store.features) {values : List Value} :
    values ∈ binding.valuesUnder store feature.id ↔ values ∈ binding.valuesOf store feature := by
  rw [valuesUnder, valuesOf]
  cases binding.target with
  | primary =>
      simp only [List.mem_map, List.mem_filter, decide_eq_true_eq, List.mem_singleton]
      constructor
      · rintro ⟨other, ⟨hother, hid⟩, rfl⟩
        rw [h.eq_of_id_eq hmem hother hid.symm]
      · rintro rfl
        exact ⟨feature, ⟨hmem, rfl⟩, rfl⟩
  | joined stageTypes =>
      simp only [List.mem_map, List.mem_filter, Store.stagesOf, decide_eq_true_eq, and_assoc]

/-- The queries of a test select the features that have a record that meets one of the literals. -/
theorem Field.select_queriesFor_iff (h : store.Consistent) {feature : Feature} (hmem : feature ∈ store.features)
    (field : Field) (op : Operator) {literals : List Literal} (hsole : Literal.SoleRange literals) :
    (∃ query ∈ field.binding.queriesFor op literals, feature.id ∈ store.select query)
      ↔ ∃ values ∈ field.binding.valuesOf store feature, ∃ l ∈ literals, l.MetBy op values := by
  rw [field.mem_select_queriesFor_iff op hsole]
  exact exists_congr fun values => and_congr_left fun _ => field.binding.mem_valuesUnder_iff h hmem

/-- Complements are allowed for a single operand of the property's own kind, where every feature has exactly one
value for the property. -/
theorem Binding.exists_of_canComplement {binding : Binding} {literals : List Literal}
    (h : binding.canComplement literals = true) :
    ∃ l operand, literals = [l] ∧ l.toValue? = some operand ∧ binding.target = .primary
      ∧ binding.property.cardinality = .required ∧ operand.kind = binding.property.kind := by
  rw [canComplement.eq_def] at h
  split at h
  · next l =>
      obtain ⟨operand, hoperand, hwith⟩ := (Option.any_eq_true _ _).1 h
      simp only [complementsWith, Bool.and_eq_true, beq_iff_eq] at hwith
      obtain ⟨⟨⟨htarget, -⟩, hrequired⟩, hkind⟩ := hwith
      exact ⟨l, operand, rfl, hoperand, htarget, hrequired, hkind⟩
  · exact absurd h Bool.false_ne_true

/-- **Complements.** Where a negated test may be answered by the complementary operator, the literals are met
with it exactly if they are not met as they stand. -/
theorem Field.complement_iff {feature : Feature} {field : Field} {literals : List Literal}
    (h : field.binding.canComplement literals = true) (op : Operator) :
    (∃ values ∈ field.binding.valuesOf store feature, ∃ l ∈ literals, l.MetBy op.complement values)
      ↔ ¬ ∃ values ∈ field.binding.valuesOf store feature, ∃ l ∈ literals, l.MetBy op values := by
  obtain ⟨l, operand, rfl, hoperand, htarget, hrequired, hkind⟩ := Binding.exists_of_canComplement h
  have hrange : l.isRange = false := Literal.isRange_of_toValue? hoperand
  have hmet : ∀ op : Operator, l.MetBy op (Record.values feature field.binding.property)
      ↔ (Filter.compare field.binding.property op operand).accepts
          (Record.values feature field.binding.property) = true := by
    intro op
    rw [Literal.metBy_of_not_isRange hrange, Literal.ComparesWith, Filter.accepts_compare_iff]
    simp only [hoperand, Option.some.injEq, exists_eq_left']
  have hcollection : field.binding.property.collection = Record.collection Feature := by
    have hbinding := field.collection_binding
    rwa [if_pos htarget] at hbinding
  simp only [Binding.valuesOf, htarget, List.mem_singleton, exists_eq_left, hmet]
  rw [Record.accepts_complement feature op hcollection hrequired hkind]
  simp

end Plans

/-! ### Answers that are right -/

/-- A mark that is not set changes nothing. -/
theorem xor_unmarked {a : Prop} : Xor a (false = true) ↔ a := by
  rw [xor_def]
  simp

/-- A mark that is set turns a claim around. -/
theorem xor_marked {a : Prop} : Xor a (true = true) ↔ ¬ a := by
  rw [xor_def]
  simp

/-- An answer is right about a feature: it has the feature exactly if the test holds of it, or exactly if not
where it is marked as complemented, which only the answer to a negated term may be. -/
structure Resolved.RightAbout (answer : Resolved) (negated : Bool) (feature : Feature) (holds : Prop) :
    Prop where
  negated_of_complemented : answer.complemented = true → negated = true
  mem_iff : feature.id ∈ answer.ids ↔ Xor holds (answer.complemented = true)

namespace Resolved

variable {ids : IdSet} {negated : Bool} {feature : Feature} {holds : Prop}

/-- An answer without the mark is right if it has the features that the test holds of. -/
theorem rightAbout_plain (h : feature.id ∈ ids ↔ holds) :
    RightAbout ⟨ids, false⟩ negated feature holds where
  negated_of_complemented hfalse := absurd hfalse Bool.false_ne_true
  mem_iff := h.trans xor_unmarked.symm

/-- To match nothing is right about a feature that the test does not hold of. -/
theorem rightAbout_empty (h : ¬ holds) : RightAbout .empty negated feature holds :=
  rightAbout_plain (iff_of_false (IdSet.not_mem_empty feature.id) h)

end Resolved

/-- The answer of a store to a test of a field that can be filtered on, or to the negated one. -/
theorem Store.Online.exists_answer_resolveKnown {store : Store} (online : store.Online) {field : Field}
    (hindexed : field.binding.indexed = true) (context : Context) (op : Operator) (raw : String) (negated : Bool) :
    ∃ ids, (store.resolveKnown context field op raw negated).value.answer
          = ⟨ids, (field.binding.plan op (Store.literalsFor context field raw) negated).complemented⟩
      ∧ ∀ id, id ∈ ids ↔ ∃ query ∈ (field.binding.plan op (Store.literalsFor context field raw) negated).queries,
          id ∈ store.select query := by
  obtain ⟨ids, hlookup, hids⟩ := online.exists_lookup
    (field.binding.plan op (Store.literalsFor context field raw) negated)
    (field.spelling ++ op.symbol ++ raw) (field.valid_queriesFor _ _)
  refine ⟨ids, ?_, hids⟩
  rw [resolveKnown, if_pos hindexed, Noted.value_pure, Lookup.ofStore, hlookup]
  rfl

/-- A test of a field that cannot be filtered on matches nothing, and is never answered by its complement. -/
theorem Store.answer_resolveKnown_of_not_indexed {store : Store} {field : Field}
    (hindexed : ¬ field.binding.indexed = true) (context : Context) (op : Operator) (raw : String) (negated : Bool) :
    (store.resolveKnown context field op raw negated).value.answer = .empty := by
  rw [resolveKnown, if_neg hindexed]
  rfl

/-- The answer of the store to a test of a known field is right. -/
theorem Field.rightAbout_resolveKnown {setting : Setting} {feature : Feature}
    (consistent : setting.store.Consistent)
    (online : setting.store.Online) (hmem : feature ∈ setting.store.features) (field : Field)
    (op : Operator) (raw : String) (negated : Bool) :
    (setting.store.resolveKnown setting.context field op raw negated).value.answer.RightAbout negated
      feature (field.Holds setting op raw feature) := by
  by_cases hindexed : field.binding.indexed = true
  · have hsole := Store.soleRange_literalsFor setting.context field raw
    obtain ⟨ids, hanswer, hids⟩ := online.exists_answer_resolveKnown hindexed setting.context op raw negated
    rw [hanswer, Binding.plan_complemented]
    refine ⟨fun h => (Bool.and_eq_true_iff.1 h).1, ?_⟩
    rw [hids, Binding.plan, field.select_queriesFor_iff consistent hmem _ hsole]
    cases hcomplemented : negated && field.binding.canComplement
        (Store.literalsFor setting.context field raw) with
    | false =>
        rw [if_neg Bool.false_ne_true, xor_unmarked, Field.Holds, hindexed]
        exact (and_iff_right rfl).symm
    | true =>
        have hcan := (Bool.and_eq_true_iff.1 hcomplemented).2
        rw [if_pos rfl, xor_marked, field.complement_iff hcan op, Field.Holds, hindexed]
        exact not_congr (and_iff_right rfl).symm
  · rw [Store.answer_resolveKnown_of_not_indexed hindexed]
    exact Resolved.rightAbout_empty fun h => hindexed h.1

end FeatureQuery
