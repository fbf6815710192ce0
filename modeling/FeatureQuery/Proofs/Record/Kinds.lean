import FeatureQuery.Record.Feature
import FeatureQuery.Record.Gate
import FeatureQuery.Record.Stage
import FeatureQuery.Record.Star

/-!
# The kinds of values

Records keep what their properties promise: a record has values for the properties of its own collection
only, they are of the property's kind, and there are as many of them as the property says. No property
holds floats, so the values of one property compare with each other, in a total order.

## Main results

* `LawfulRecord`: the promise, which features, stages, gates and stars all keep.
* `Value.order_of_kind_eq`, `Value.order_trans`: values of one kind other than float are ordered.
* `Record.accepts_complement`: a record with exactly one comparable value passes either a comparison or its
  complement.
-/

namespace FeatureQuery

open FeatureQuery.Time (Instant)

/-! ### Values of one kind -/

namespace Value

/-- A value of the kind of integers is an integer. -/
theorem eq_int_of_kind {v : Value} (h : v.kind = .int) : ∃ n, v = .int n := by
  cases v with
  | int n => exact ⟨n, rfl⟩
  | _ => exact absurd h (by simp [kind])

/-- A value of the kind of instants is an instant. -/
theorem eq_instant_of_kind {v : Value} (h : v.kind = .instant) : ∃ t, v = .instant t := by
  cases v with
  | instant t => exact ⟨t, rfl⟩
  | _ => exact absurd h (by simp [kind])

/-- A value of the kind of truth values is one. -/
theorem eq_bool_of_kind {v : Value} (h : v.kind = .bool) : ∃ b, v = .bool b := by
  cases v with
  | bool b => exact ⟨b, rfl⟩
  | _ => exact absurd h (by simp [kind])

/-- A value of the kind of texts is a text. -/
theorem eq_text_of_kind {v : Value} (h : v.kind = .text) : ∃ s, v = .text s := by
  cases v with
  | text s => exact ⟨s, rfl⟩
  | _ => exact absurd h (by simp [kind])

/-- The order of instants compares day, second and fraction one after another. -/
theorem instant_order_eq : Instant.order
    = compareLex (compareLex (compareOn Instant.day) (compareOn Instant.second))
        (compareOn Instant.nano) := rfl

instance : Std.TransCmp Instant.order := by
  rw [instant_order_eq]
  infer_instance

/-- Two values of one kind other than float compare, and the other way round with the opposite result. -/
theorem order_of_kind_eq {a b : Value} (hkind : a.kind = b.kind) (hfloat : a.kind ≠ .float) :
    ∃ o, a.order b = some o ∧ b.order a = some o.swap := by
  cases a with
  | int n =>
      obtain ⟨m, rfl⟩ := eq_int_of_kind hkind.symm
      exact ⟨compare n m, rfl, congrArg some Std.OrientedCmp.eq_swap⟩
  | float x => exact absurd rfl hfloat
  | instant t =>
      obtain ⟨u, rfl⟩ := eq_instant_of_kind hkind.symm
      exact ⟨t.order u, rfl, congrArg some Std.OrientedCmp.eq_swap⟩
  | bool x =>
      obtain ⟨y, rfl⟩ := eq_bool_of_kind hkind.symm
      exact ⟨compare x y, rfl, congrArg some Std.OrientedCmp.eq_swap⟩
  | text s =>
      obtain ⟨u, rfl⟩ := eq_text_of_kind hkind.symm
      exact ⟨compare s u, rfl, congrArg some Std.OrientedCmp.eq_swap⟩

/-- Results of a transitive comparison, as the results of comparing values. -/
theorem isLE_some_trans {α : Type} {cmp : α → α → Ordering} [Std.TransCmp cmp] {x y z : α}
    {o₁ o₂ : Ordering} (h₁ : some (cmp x y) = some o₁) (h₂ : some (cmp y z) = some o₂)
    (le₁ : o₁.isLE = true) (le₂ : o₂.isLE = true) : (cmp x z).isLE = true := by
  obtain rfl := Option.some.inj h₁
  obtain rfl := Option.some.inj h₂
  exact Std.TransCmp.isLE_trans le₁ le₂

/-- The order of the values of one kind is transitive. -/
theorem order_trans {a b c : Value} {o₁ o₂ : Ordering} (hab : a.kind = b.kind) (hbc : b.kind = c.kind)
    (hfloat : a.kind ≠ .float) (h₁ : a.order b = some o₁) (h₂ : b.order c = some o₂)
    (le₁ : o₁.isLE = true) (le₂ : o₂.isLE = true) : ∃ o, a.order c = some o ∧ o.isLE = true := by
  cases a with
  | int n =>
      obtain ⟨m, rfl⟩ := eq_int_of_kind hab.symm
      obtain ⟨k, rfl⟩ := eq_int_of_kind hbc.symm
      exact ⟨_, rfl, isLE_some_trans h₁ h₂ le₁ le₂⟩
  | float x => exact absurd rfl hfloat
  | instant t =>
      obtain ⟨u, rfl⟩ := eq_instant_of_kind hab.symm
      obtain ⟨v, rfl⟩ := eq_instant_of_kind hbc.symm
      exact ⟨_, rfl, isLE_some_trans h₁ h₂ le₁ le₂⟩
  | bool x =>
      obtain ⟨y, rfl⟩ := eq_bool_of_kind hab.symm
      obtain ⟨z, rfl⟩ := eq_bool_of_kind hbc.symm
      exact ⟨_, rfl, isLE_some_trans h₁ h₂ le₁ le₂⟩
  | text s =>
      obtain ⟨u, rfl⟩ := eq_text_of_kind hab.symm
      obtain ⟨v, rfl⟩ := eq_text_of_kind hbc.symm
      exact ⟨_, rfl, isLE_some_trans h₁ h₂ le₁ le₂⟩

/-- Integers are equal exactly if they compare so. -/
theorem int_order_eq_iff {n m : Int64} : (int n).order (int m) = some .eq ↔ n = m := by
  rw [show (int n).order (int m) = some (compare n m) from rfl, Option.some.injEq]
  exact Std.LawfulEqCmp.compare_eq_iff_eq

/-- Texts are equal exactly if they compare so. -/
theorem text_order_eq_iff {s u : String} : (text s).order (text u) = some .eq ↔ s = u := by
  rw [order_text, Option.some.injEq]
  exact Std.LawfulEqCmp.compare_eq_iff_eq

/-- Instants are equal exactly if they compare so. -/
theorem instant_order_eq_iff {t u : Instant} : t.order u = .eq ↔ t = u := by
  obtain ⟨day, second, nano⟩ := t
  obtain ⟨day', second', nano'⟩ := u
  simp only [Instant.order, Ordering.then_eq_eq, Std.LawfulEqCmp.compare_eq_iff_eq, Instant.mk.injEq,
    and_assoc]

/-- Values of one kind other than float are equal exactly if they compare so. -/
theorem order_eq_iff {a b : Value} (hkind : a.kind = b.kind) (hfloat : a.kind ≠ .float) :
    a.order b = some .eq ↔ a = b := by
  cases a with
  | int n =>
      obtain ⟨m, rfl⟩ := eq_int_of_kind hkind.symm
      rw [int_order_eq_iff, int.injEq]
  | float x => exact absurd rfl hfloat
  | instant t =>
      obtain ⟨u, rfl⟩ := eq_instant_of_kind hkind.symm
      rw [order, Option.some.injEq, instant_order_eq_iff, instant.injEq]
  | bool x =>
      obtain ⟨y, rfl⟩ := eq_bool_of_kind hkind.symm
      rw [order, Option.some.injEq, Std.LawfulEqCmp.compare_eq_iff_eq, bool.injEq]
  | text s =>
      obtain ⟨u, rfl⟩ := eq_text_of_kind hkind.symm
      rw [text_order_eq_iff, text.injEq]

end Value

/-! ### What records promise -/

/-- Values are what a property promises of the records of a collection. -/
structure Property.Describes (p : Property) (collection : Collection) (values : List Value) : Prop where
  /-- There are no values on the records of another collection. -/
  eq_nil : p.collection ≠ collection → values = []
  /-- Every value is of the kind of the property. -/
  kind_of_mem : ∀ v ∈ values, v.kind = p.kind
  /-- There is exactly one value of a required property. -/
  length_required : p.collection = collection → p.cardinality = .required → values.length = 1
  /-- There is at most one value of an optional property. -/
  length_optional : p.cardinality = .optional → values.length ≤ 1

namespace Property

variable {p : Property} {collection : Collection}

/-- One value of the right kind is what any property promises. -/
theorem describes_singleton {v : Value} (hcollection : p.collection = collection)
    (hkind : v.kind = p.kind) : p.Describes collection [v] where
  eq_nil h := absurd hcollection h
  kind_of_mem w hw := by rw [List.mem_singleton.1 hw, hkind]
  length_required _ _ := rfl
  length_optional _ := Nat.le_refl 1

/-- Any number of texts is what a repeated property of texts promises. -/
theorem describes_textValues (texts : List String) (hcollection : p.collection = collection)
    (hkind : p.kind = .text) (hrepeated : p.cardinality = .repeated) :
    p.Describes collection (Record.textValues texts) where
  eq_nil h := absurd hcollection h
  kind_of_mem v hv := by
    obtain ⟨s, -, rfl⟩ := List.mem_map.1 hv
    exact hkind.symm
  length_required _ h := absurd (hrepeated.symm.trans h) (by decide)
  length_optional h := absurd (hrepeated.symm.trans h) (by decide)

/-- A value that may be absent is what an optional property promises. -/
theorem describes_optionalValue {α : Type} {toValue : α → Value} (x : Option α)
    (hcollection : p.collection = collection) (hkind : ∀ x, (toValue x).kind = p.kind)
    (hoptional : p.cardinality = .optional) : p.Describes collection (Record.optionalValue toValue x) where
  eq_nil h := absurd hcollection h
  kind_of_mem v hv := by
    cases x with
    | none => exact absurd hv List.not_mem_nil
    | some x => rw [List.mem_singleton.1 hv, hkind]
  length_required _ h := absurd (hoptional.symm.trans h) (by decide)
  length_optional _ := Record.optionalValue_length_le toValue x

/-- There is at most one value of a property that is not repeated. -/
theorem Describes.length_le_one {values : List Value} (h : p.Describes collection values)
    (hrepeated : p.cardinality ≠ .repeated) : values.length ≤ 1 := by
  by_cases hcollection : p.collection = collection
  · cases hcardinality : p.cardinality with
    | required => exact Nat.le_of_eq (h.length_required hcollection hcardinality)
    | optional => exact h.length_optional hcardinality
    | repeated => exact absurd hcardinality hrepeated
  · rw [h.eq_nil hcollection]
    exact Nat.zero_le 1

/-- The value of a property that is not repeated is the only one. -/
theorem Describes.eq_of_mem {values : List Value} (h : p.Describes collection values)
    (hrepeated : p.cardinality ≠ .repeated) {v w : Value} (hv : v ∈ values) (hw : w ∈ values) : v = w := by
  have hone := h.length_le_one hrepeated
  rcases values with _ | ⟨u, _ | ⟨u', rest⟩⟩
  · exact absurd hv List.not_mem_nil
  · rw [List.mem_singleton.1 hv, List.mem_singleton.1 hw]
  · exact absurd hone (by simp)

/-- No value is what the properties of other collections promise. -/
theorem describes_nil (hcollection : p.collection ≠ collection) : p.Describes collection [] where
  eq_nil _ := rfl
  kind_of_mem _ hv := absurd hv List.not_mem_nil
  length_required h _ := absurd h hcollection
  length_optional _ := Nat.zero_le 1

end Property

/-- Records whose values are what their properties promise. -/
class LawfulRecord (ρ : Type) [Record ρ] : Prop where
  describes : ∀ (record : ρ) (p : Property),
    p.Describes (Record.collection ρ) (Record.values record p)

instance : LawfulRecord Feature where
  describes feature p := by
    cases p <;> first
      | exact Property.describes_singleton rfl rfl
      | exact Property.describes_textValues _ rfl rfl rfl
      | exact Property.describes_optionalValue _ rfl (fun _ => rfl) rfl
      | exact Property.describes_nil (by decide)

instance : LawfulRecord Stage where
  describes stage p := by
    cases p <;> first
      | exact Property.describes_singleton rfl rfl
      | exact Property.describes_optionalValue _ rfl (fun _ => rfl) rfl
      | exact Property.describes_nil (by decide)

instance : LawfulRecord Gate where
  describes gate p := by
    cases p <;> first
      | exact Property.describes_singleton rfl rfl
      | exact Property.describes_optionalValue _ rfl (fun _ => rfl) rfl
      | exact Property.describes_nil (by decide)

instance : LawfulRecord Star where
  describes star p := by
    cases p <;> first
      | exact Property.describes_singleton rfl rfl
      | exact Property.describes_nil (by decide)

/-! ### Comparisons and their complements -/

namespace Record

variable {ρ : Type} [Record ρ] [LawfulRecord ρ]

/-- No value of a record is a float. -/
theorem kind_ne_float {record : ρ} {p : Property} {v : Value} (h : v ∈ values record p) :
    v.kind ≠ .float := by
  rw [(LawfulRecord.describes record p).kind_of_mem v h]
  exact p.not_float

/-- A record with exactly one value, which compares with the operand, passes a comparison exactly if it
does not pass the complementary one. -/
theorem accepts_complement (record : ρ) {p : Property} {operand : Value} (op : Operator)
    (hcollection : p.collection = Record.collection ρ) (hrequired : p.cardinality = .required)
    (hkind : operand.kind = p.kind) :
    (Filter.compare p op.complement operand).accepts (values record p)
      = !(Filter.compare p op operand).accepts (values record p) := by
  have hdescribes := LawfulRecord.describes record p
  obtain ⟨v, hv⟩ := List.length_eq_one_iff.1 (hdescribes.length_required hcollection hrequired)
  have hmem : v ∈ values record p := hv ▸ List.mem_singleton_self v
  have hsame : v.kind = operand.kind := (hdescribes.kind_of_mem v hmem).trans hkind.symm
  obtain ⟨o, ho, -⟩ := Value.order_of_kind_eq hsame (kind_ne_float hmem)
  simp [hv, Filter.accepts, Filter.compare, Condition.holds, ho, Operator.accepts_complement]

end Record

end FeatureQuery
