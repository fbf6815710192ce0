import FeatureQuery.Proofs.Literal.Relative
import FeatureQuery.Proofs.Page
import Mathlib.Data.List.Infix
import Mathlib.Tactic.MkIffOfInductiveProp

/-!
# What tests of fields select

The answer to a test of a field is a set of ids. An id is in it if one of the records that belong to it meets one
of the literals that the value denotes for the field. This is so for all ids, also for those that only stages
belong to.

A range is met by a record that has a value at or above its lower bound and a value at or below its upper bound.
Where a record has one value at most, that is a value in the range. A record with several values can meet a range
that none of them lies in. A range is met in this way whatever the operator is, so that a test for inequality with
a range selects what the test for equality does; with a single value the two have nothing in common.

## Main results

* `Store.mem_selectedBy_iff`: what the answer to a test of a field has.
* `Store.selectedBy_range`: what a range selects.
* `Store.selectedBy_ne`: whether inequality leaves out what equality selects.
-/

namespace FeatureQuery

open FeatureQuery.Text (isBlank splitDots trim)

/-! ### Answers to tests that are not negated -/

/-- The ids in the answer to a test of a field that is not negated. -/
def Store.selectedBy (store : Store) (context : Context) (name : String) (op : Operator) (raw : String) : IdSet :=
  (store.resolveField context name op raw false).value.answer.ids

section Answers

variable {store : Store} {context : Context} {name : String} {field : Field}

/-- The answer of a store to a test of a field that can be filtered on, or to the negated one. -/
theorem Store.Online.exists_answer_resolveField (online : store.Online) (hname : Field.ofName? name = some field)
    (hindexed : field.binding.indexed = true) (context : Context) (op : Operator) (raw : String) (negated : Bool) :
    ∃ ids, (store.resolveField context name op raw negated).value.answer
          = ⟨ids, (field.binding.plan op (Store.literalsFor context field raw) negated).complemented⟩
      ∧ ∀ id, id ∈ ids ↔ ∃ query ∈ (field.binding.plan op (Store.literalsFor context field raw) negated).queries,
          id ∈ store.select query := by
  rw [resolveField, hname]
  exact online.exists_answer_resolveKnown hindexed context op raw negated

/-- A test of a field that does not exist or cannot be filtered on matches nothing, and is never answered by its
complement. -/
theorem Store.answer_of_not_indexed (h : ¬ ∃ field, Field.ofName? name = some field ∧ field.binding.indexed = true)
    (op : Operator) (raw : String) (negated : Bool) :
    (store.resolveField context name op raw negated).value.answer = .empty := by
  rw [resolveField]
  cases hname : Field.ofName? name with
  | none => rfl
  | some field =>
      exact answer_resolveKnown_of_not_indexed (fun hindexed => h ⟨field, hname, hindexed⟩) context op raw negated

/-- A test of a name that is no indexed field selects nothing. -/
theorem Store.selectedBy_of_not_indexed
    (h : ¬ ∃ field, Field.ofName? name = some field ∧ field.binding.indexed = true) (op : Operator) (raw : String) :
    store.selectedBy context name op raw = .empty :=
  congrArg Resolved.ids (answer_of_not_indexed h op raw false)

/-- **Selection.** A store that is online selects an id by a test of a field exactly if a record that belongs to it
meets one of the literals. -/
theorem Store.mem_selectedBy_iff (online : store.Online) (hname : Field.ofName? name = some field)
    (hindexed : field.binding.indexed = true) {op : Operator} {raw : String} {id : Int64} :
    id ∈ store.selectedBy context name op raw
      ↔ ∃ values ∈ field.binding.valuesUnder store id, ∃ l ∈ literalsFor context field raw, l.MetBy op values := by
  obtain ⟨ids, hanswer, hids⟩ := online.exists_answer_resolveField hname hindexed context op raw false
  rw [selectedBy, hanswer, hids]
  exact field.mem_select_queriesFor_iff op (soleRange_literalsFor context field raw)

/-- What a test of a field selects by a value that denotes one literal. -/
theorem Store.mem_selectedBy_single_iff (online : store.Online) (hname : Field.ofName? name = some field)
    (hindexed : field.binding.indexed = true) {raw : String} {l : Literal}
    (hraw : Literal.ofRaw context raw.toList = [l]) {op : Operator} {id : Int64} :
    id ∈ store.selectedBy context name op raw
      ↔ ∃ values ∈ field.binding.valuesUnder store id, (field.binding.narrow l).MetBy op values := by
  rw [mem_selectedBy_iff online hname hindexed, literalsFor, hraw]
  simp only [List.map_cons, List.map_nil, List.mem_singleton, exists_eq_left]

/-- The values of a field of features under an id are those of the features with the id. -/
theorem Binding.mem_valuesUnder_primary {binding : Binding} (h : binding.target = .primary) {id : Int64}
    {values : List Value} :
    values ∈ binding.valuesUnder store id
      ↔ ∃ feature ∈ store.features, feature.id = id ∧ Record.values feature binding.property = values := by
  rw [valuesUnder, h]
  simp only [List.mem_map, List.mem_filter, decide_eq_true_eq, and_assoc]

/-- The values of a record that a field is found on are what the field's property promises. -/
theorem Field.describes_of_mem_valuesUnder {id : Int64} {values : List Value}
    (h : values ∈ field.binding.valuesUnder store id) :
    field.binding.property.Describes field.binding.property.collection values := by
  have hcollection := field.collection_binding
  rw [Binding.collection] at hcollection
  rw [Binding.valuesUnder] at h
  cases htarget : field.binding.target with
  | primary =>
      rw [htarget] at h hcollection
      obtain ⟨feature, -, rfl⟩ := List.mem_map.1 h
      rw [hcollection]
      exact LawfulRecord.describes feature _
  | joined stageTypes =>
      rw [htarget] at h hcollection
      obtain ⟨stage, -, rfl⟩ := List.mem_map.1 h
      rw [hcollection]
      exact LawfulRecord.describes stage _

/-- The values of a record that a field is found on are of the kind of the field's property. -/
theorem Field.kind_of_mem_valuesUnder {kind : ValueKind} (hkind : field.binding.property.kind = kind) {id : Int64}
    {values : List Value} (h : values ∈ field.binding.valuesUnder store id) : ∀ v ∈ values, v.kind = kind :=
  fun v hv => ((field.describes_of_mem_valuesUnder h).kind_of_mem v hv).trans hkind

end Answers

/-- A literal is not met by values that do not compare with it. -/
theorem Literal.not_metBy_of_order {l : Literal} {operand : Value} (hoperand : l.toValue? = some operand)
    {values : List Value} (hnone : ∀ v ∈ values, v.order operand = none) (op : Operator) : ¬ l.MetBy op values := by
  rw [metBy_of_not_isRange (isRange_of_toValue? hoperand)]
  rintro ⟨other, hother, v, hv, o, ho, -⟩
  obtain rfl : operand = other := Option.some.inj (hoperand.symm.trans hother)
  exact absurd ((hnone v hv).symm.trans ho) (by simp)

/-! ### Ranges -/

/-- A value is a bound or above it. -/
def Value.AtOrAbove (v low : Value) : Prop :=
  ∃ o, v.order low = some o ∧ o.isGE = true

/-- A value is a bound or below it. -/
def Value.AtOrBelow (v high : Value) : Prop :=
  ∃ o, v.order high = some o ∧ o.isLE = true

/-- A text that can stand as the bound of a range as it is: it is not empty, and it holds neither blanks nor quotes
nor two dots. -/
structure Literal.IsBound (cs : List Char) : Prop where
  ne_nil : cs ≠ []
  plain : ∀ c ∈ cs, isBlank c = false ∧ c ≠ '"'
  dots : ¬ ['.', '.'] <:+: cs

instance (cs : List Char) : Decidable (Literal.IsBound cs) :=
  decidable_of_iff (cs ≠ [] ∧ (cs.all fun c => !isBlank c && c != '"') = true ∧ ¬ ['.', '.'] <:+: cs)
    ⟨fun ⟨hne, hplain, hdots⟩ => ⟨hne, by simpa using hplain, hdots⟩,
      fun ⟨hne, hplain, hdots⟩ => ⟨hne, by simpa using hplain, hdots⟩⟩

/-- What a text without quotes denotes for a field, as an operand. -/
def Field.operand? (field : Field) (context : Context) (text : String) : Option Value :=
  (field.binding.narrow (.scalar context text.toList)).toValue?

/-- A text without quotes always denotes an operand. -/
theorem Field.exists_operand (field : Field) (context : Context) (text : String) :
    ∃ v, field.operand? context text = some v := by
  rw [← Option.isSome_iff_exists, operand?, Literal.toValue?_isSome_iff, Binding.narrow_isRange,
    Literal.not_isRange_scalar]
  rfl

namespace Literal

/-- There are no blanks around a bound. -/
theorem IsBound.tight {cs : List Char} (h : IsBound cs) : Text.Tight cs :=
  ⟨fun c hc => (h.plain c (List.mem_of_head? hc)).1, fun c hc => (h.plain c (List.mem_of_getLast? hc)).1⟩

/-- A bound has no blanks or quotes to be taken off. -/
theorem IsBound.unquote_trim {cs : List Char} (h : IsBound cs) : unquote (trim cs) = cs := by
  rw [Text.trim_of_tight h.tight]
  exact unquote_of_head fun hquote => (h.plain '"' (List.mem_of_head? hquote)).2 rfl

/-- Two bounds with two dots between them denote a range. -/
theorem ofRaw_range {low high : List Char} (hlow : IsBound low) (hhigh : IsBound high)
    (hlast : low.getLast? ≠ some '.') (context : Context) :
    ofRaw context (low ++ '.' :: '.' :: high) = [.range (scalar context low) (scalar context high)] := by
  have hdots : splitDots (low ++ '.' :: '.' :: high) = [low, high] := by
    rw [Text.splitDots_closed (Text.closed_of_no_two_dots hlow.dots hlast),
      Text.splitDots_of_no_two_dots hhigh.dots]
  rw [ofRaw, hdots]
  dsimp only
  rw [ofBounds, hlow.unquote_trim, hhigh.unquote_trim, if_neg]
  simp [hlow.ne_nil, hhigh.ne_nil]

end Literal

/-- A record meets a range with a value at or above the lower bound and one at or below the upper bound. -/
theorem Literal.metBy_range_iff {op : Operator} {values : List Value} {low high : Literal} {l h : Value}
    (hlow : low.toValue? = some l) (hhigh : high.toValue? = some h) :
    (Literal.range low high).MetBy op values ↔ (∃ v ∈ values, v.AtOrAbove l) ∧ ∃ v ∈ values, v.AtOrBelow h := by
  have hge : ∀ o : Ordering, Operator.ge.accepts o = true ↔ o.isGE = true := by decide
  have hle : ∀ o : Ordering, Operator.le.accepts o = true ↔ o.isLE = true := by decide
  simp only [MetBy, ComparesWith, hlow, hhigh, Option.some.injEq, exists_eq_left', hge, hle,
    Value.AtOrAbove, Value.AtOrBelow]

section Ranges

variable {store : Store} {name : String} {field : Field}

/-- **Ranges.** A range selects what a record belongs to that has a value at or above the lower bound and a value at
or below the upper bound. Unless the field is repeated, this is one and the same value. -/
theorem Store.selectedBy_range (online : store.Online) (hname : Field.ofName? name = some field)
    (hindexed : field.binding.indexed = true) {low high : String} (hlow : Literal.IsBound low.toList)
    (hhigh : Literal.IsBound high.toList) (hlast : low.toList.getLast? ≠ some '.') (context : Context) :
    ∃ l h, field.operand? context low = some l ∧ field.operand? context high = some h
      ∧ (∀ id, id ∈ store.selectedBy context name .eq (low ++ ".." ++ high)
          ↔ ∃ values ∈ field.binding.valuesUnder store id,
              (∃ v ∈ values, v.AtOrAbove l) ∧ ∃ v ∈ values, v.AtOrBelow h)
      ∧ (field.binding.property.cardinality ≠ .repeated →
          ∀ id, id ∈ store.selectedBy context name .eq (low ++ ".." ++ high)
            ↔ ∃ values ∈ field.binding.valuesUnder store id, ∃ v ∈ values, v.AtOrAbove l ∧ v.AtOrBelow h) := by
  obtain ⟨l, hl⟩ := field.exists_operand context low
  obtain ⟨h, hh⟩ := field.exists_operand context high
  have hraw : Literal.ofRaw context (low ++ ".." ++ high).toList
      = [.range (.scalar context low.toList) (.scalar context high.toList)] := by
    rw [← Literal.ofRaw_range hlow hhigh hlast]
    simp
  have hselected : ∀ id, id ∈ store.selectedBy context name .eq (low ++ ".." ++ high)
      ↔ ∃ values ∈ field.binding.valuesUnder store id,
          (∃ v ∈ values, v.AtOrAbove l) ∧ ∃ v ∈ values, v.AtOrBelow h := by
    intro id
    rw [mem_selectedBy_single_iff online hname hindexed hraw]
    exact exists_congr fun values => and_congr_right fun _ => Literal.metBy_range_iff hl hh
  refine ⟨l, h, hl, hh, hselected, fun hrepeated id => ?_⟩
  rw [hselected]
  refine exists_congr fun values => and_congr_right fun hvalues => ?_
  constructor
  · rintro ⟨⟨v, hv, habove⟩, w, hw, hbelow⟩
    obtain rfl : v = w := (field.describes_of_mem_valuesUnder hvalues).eq_of_mem hrepeated hv hw
    exact ⟨v, hv, habove, hbelow⟩
  · rintro ⟨v, hv, habove, hbelow⟩
    exact ⟨⟨v, hv, habove⟩, v, hv, hbelow⟩

/-- A stage in which a feature ships is selected by the milestones around the one that it ships in. -/
theorem Store.selectedBy_range_shipped :
    Literal.IsBound "110".toList ∧ Literal.IsBound "130".toList
      ∧ 1 ∈ (ofRecords [.ownedBy "ann" 1 false] [.shippedIn 1 120] [] []).selectedBy (.anonymousAt .epoch)
          "browsers.chrome.desktop" .eq ("110" ++ ".." ++ "130") := by
  have hlow : Literal.IsBound "110".toList := by decide +kernel
  have hhigh : Literal.IsBound "130".toList := by decide +kernel
  obtain ⟨l, h, hl, hh, -, hselected⟩ := selectedBy_range
    (online_ofRecords [.ownedBy "ann" 1 false] [.shippedIn 1 120] [] []) (Field.ofName?_spelling .desktop) rfl
    hlow hhigh (by decide) (.anonymousAt .epoch)
  obtain rfl : .int 110 = l := Option.some.inj (.trans (by decide +kernel) hl)
  obtain rfl : .int 130 = h := Option.some.inj (.trans (by decide +kernel) hh)
  exact ⟨hlow, hhigh, (hselected (by decide) 1).2
    ⟨[.int 120], by decide +kernel, .int 120, List.mem_singleton_self _, ⟨.gt, rfl, rfl⟩, ⟨.lt, rfl, rfl⟩⟩⟩

/-- A feature that two people own. -/
def Feature.ownedByTwo : Feature :=
  { Feature.ownedBy "a" 1 false with ownerEmails := ["a", "d"] }

/-- The owners of a feature can meet a range that none of them lies in: one is above it and one is below it. -/
theorem Store.selectedBy_range_between_owners :
    (ofRecords [.ownedByTwo] [] [] []).Online ∧ Literal.IsBound "b".toList ∧ Literal.IsBound "c".toList
      ∧ 1 ∈ (ofRecords [.ownedByTwo] [] [] []).selectedBy (.anonymousAt .epoch) "owner" .eq ("b" ++ ".." ++ "c")
      ∧ Field.owner.operand? (.anonymousAt .epoch) "b" = some (.text "b")
      ∧ Field.owner.operand? (.anonymousAt .epoch) "c" = some (.text "c")
      ∧ ¬ ∃ values ∈ Field.owner.binding.valuesUnder (ofRecords [.ownedByTwo] [] [] []) 1,
          ∃ v ∈ values, v.AtOrAbove (.text "b") ∧ v.AtOrBelow (.text "c") := by
  refine ⟨online_ofRecords _ _ _ _, by decide +kernel, by decide +kernel, by decide +kernel, by decide +kernel,
    by decide +kernel, ?_⟩
  have hvalues : Field.owner.binding.valuesUnder (ofRecords [.ownedByTwo] [] [] []) 1
      = [[.text "a", .text "d"]] := by decide +kernel
  rw [hvalues]
  simp only [exists_eq_left, List.mem_cons, List.not_mem_nil, or_false, exists_eq_or_imp]
  rintro (⟨⟨o, ho, hge⟩, -⟩ | ⟨-, o, ho, hle⟩)
  · obtain rfl : .lt = o := Option.some.inj (.trans (by decide) ho)
    exact absurd hge (by decide)
  · obtain rfl : .gt = o := Option.some.inj (.trans (by decide) ho)
    exact absurd hle (by decide)

end Ranges

/-! ### Inequality -/

/-- A field whose value every feature carries once, and that can be filtered on. -/
@[mk_iff]
structure Field.CarriedOnce (field : Field) : Prop where
  target : field.binding.target = .primary
  required : field.binding.property.cardinality = .required
  indexed : field.binding.indexed = true

/-- The fields whose value every feature carries once. -/
theorem Field.carriedOnce_iff_mem {field : Field} :
    field.CarriedOnce
      ↔ field ∈ [.id, .category, .featureType, .implStatusChrome, .intentStage, .standardMaturity, .createdWhen,
          .updatedWhen, .starCount] := by
  rw [carriedOnce_iff]
  cases field <;> decide

namespace Literal

/-- A value that a literal compares equal with does not differ from it. -/
theorem not_metBy_ne {l : Literal} {v : Value} (hrange : l.isRange = false) (h : l.MetBy .eq [v]) :
    ¬ l.MetBy .ne [v] := by
  rw [metBy_of_not_isRange hrange] at h ⊢
  rintro ⟨operand, hoperand, w, hw, o, ho, haccepts⟩
  obtain ⟨operand', hoperand', w', hw', o', ho', haccepts'⟩ := h
  rw [List.mem_singleton.1 hw, Option.some.inj (hoperand.symm.trans hoperand')] at ho
  rw [List.mem_singleton.1 hw'] at ho'
  obtain rfl : o = o' := Option.some.inj (ho.symm.trans ho')
  cases o <;> simp [Operator.accepts] at haccepts haccepts'

/-- A range is met in the same way whatever the operator is. -/
theorem metBy_of_isRange {l : Literal} (h : l.isRange = true) (op op' : Operator) (values : List Value) :
    l.MetBy op values ↔ l.MetBy op' values := by
  obtain ⟨low, high, rfl⟩ := eq_range_of_isRange h
  exact Iff.rfl

end Literal

section Inequality

variable {store : Store} {name : String} {field : Field} {context : Context} {raw : String} {l : Literal}

/-- There is one value of a field that every feature carries one value for. -/
theorem Field.CarriedOnce.eq_singleton (h : field.CarriedOnce) {id : Int64} {values : List Value}
    (hvalues : values ∈ field.binding.valuesUnder store id) : ∃ v, values = [v] :=
  List.length_eq_one_iff.1 ((field.describes_of_mem_valuesUnder hvalues).length_required rfl h.required)

/-- All features with one id carry the same values for a field that every feature carries one value for. -/
theorem Field.CarriedOnce.exists_singleton (h : field.CarriedOnce) (consistent : store.Consistent) {id : Int64}
    {values values' : List Value} (hvalues : values ∈ field.binding.valuesUnder store id)
    (hvalues' : values' ∈ field.binding.valuesUnder store id) : ∃ v, values = [v] ∧ values' = [v] := by
  obtain ⟨v, hv⟩ := h.eq_singleton hvalues
  refine ⟨v, hv, ?_⟩
  obtain ⟨feature, hmem, hid, rfl⟩ := (Binding.mem_valuesUnder_primary h.target).1 hvalues
  obtain ⟨other, hother, hid', rfl⟩ := (Binding.mem_valuesUnder_primary h.target).1 hvalues'
  rw [← consistent.eq_of_id_eq hmem hother (hid.trans hid'.symm), hv]

/-- **Inequality.** Of a field whose value every feature carries once, inequality with a single value selects
nothing that equality with it selects. With a range, it selects just what equality does. -/
theorem Store.selectedBy_ne (reachable : store.Reachable) (online : store.Online)
    (hname : Field.ofName? name = some field) (honce : field.CarriedOnce)
    (hraw : Literal.ofRaw context raw.toList = [l]) (id : Int64) :
    (l.isRange = false →
        ¬ (id ∈ store.selectedBy context name .eq raw ∧ id ∈ store.selectedBy context name .ne raw))
      ∧ (l.isRange = true →
        (id ∈ store.selectedBy context name .ne raw ↔ id ∈ store.selectedBy context name .eq raw)) := by
  simp only [mem_selectedBy_single_iff online hname honce.indexed hraw]
  constructor
  · rintro hrange ⟨⟨values, hvalues, heq⟩, values', hvalues', hne⟩
    obtain ⟨v, rfl, rfl⟩ := honce.exists_singleton reachable.consistent hvalues hvalues'
    exact Literal.not_metBy_ne ((field.binding.narrow_isRange l).trans hrange) heq hne
  · intro hrange
    exact exists_congr fun values => and_congr_right fun _ =>
      Literal.metBy_of_isRange ((field.binding.narrow_isRange l).trans hrange) .ne .eq values

/-- A feature is not selected by inequality with its id. -/
theorem Store.selectedBy_ne_id :
    3 ∈ (ofRecords [.ownedBy "ann" 3 false] [] [] []).selectedBy (.anonymousAt .epoch) "id" .eq "3"
      ∧ 3 ∉ (ofRecords [.ownedBy "ann" 3 false] [] [] []).selectedBy (.anonymousAt .epoch) "id" .ne "3" := by
  have heq : 3 ∈ (ofRecords [.ownedBy "ann" 3 false] [] [] []).selectedBy (.anonymousAt .epoch) "id" .eq "3" := by
    decide +kernel
  have hraw : Literal.ofRaw (.anonymousAt .epoch) "3".toList = [.text "3"] := by decide +kernel
  obtain ⟨hdisjoint, -⟩ := selectedBy_ne (reachable_ofRecords [.ownedBy "ann" 3 false] [] [] [])
    (online_ofRecords _ _ _ _) (Field.ofName?_spelling .id) (Field.carriedOnce_iff_mem.2 (by decide)) hraw 3
  exact ⟨heq, fun hne => hdisjoint rfl ⟨heq, hne⟩⟩

/-- A feature whose id is in a range is selected both by equality and by inequality with the range. -/
theorem Store.selectedBy_ne_within :
    (ofRecords [.ownedBy "ann" 3 false] [] [] []).Online ∧ Field.id.CarriedOnce
      ∧ Literal.ofRaw (.anonymousAt .epoch) "1..5".toList = [.range (.text "1") (.text "5")]
      ∧ 3 ∈ (ofRecords [.ownedBy "ann" 3 false] [] [] []).selectedBy (.anonymousAt .epoch) "id" .eq "1..5"
      ∧ 3 ∈ (ofRecords [.ownedBy "ann" 3 false] [] [] []).selectedBy (.anonymousAt .epoch) "id" .ne "1..5" :=
  ⟨online_ofRecords _ _ _ _, Field.carriedOnce_iff_mem.2 (by decide), by decide +kernel⟩

end Inequality

end FeatureQuery
