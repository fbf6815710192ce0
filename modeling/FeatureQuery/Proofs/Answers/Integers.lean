import FeatureQuery.Proofs.Answers.Lists
import FeatureQuery.Proofs.Literal.Collapsing
import FeatureQuery.Proofs.Number.Decimal

/-!
# Tests with integers

An integer that is written in decimal is compared with integers as an integer, with two exceptions. Of a property
that holds the codes of an enumeration it is a name first: one that is no code of the enumeration names nothing, and
no record is selected by it, not even one that has this code. And an integer beyond 64 bits is read as the float
nearest to it. The 64-bit integers are rounded before they are compared with it, so that those near the end of their
range are equal to the integers that lie a little beyond this end.

## Main results

* `Store.selectedBy_code`: what an integer selects by a property of codes.
* `Store.selectedBy_integer`: what an integer selects by any other property of integers.
-/

namespace FeatureQuery

open FeatureQuery.Number (Double IntWritten int64? showInt64)

/-! ### Operators -/

namespace Operator

/-- What an operator says of two integers. -/
def Relates : Operator → Int → Int → Prop
  | eq, a, b => a = b
  | ne, a, b => a ≠ b
  | lt, a, b => a < b
  | le, a, b => a ≤ b
  | gt, a, b => b < a
  | ge, a, b => b ≤ a

instance (op : Operator) (a b : Int) : Decidable (op.Relates a b) :=
  match op with
  | eq => inferInstanceAs (Decidable (a = b))
  | ne => inferInstanceAs (Decidable (a ≠ b))
  | lt => inferInstanceAs (Decidable (a < b))
  | le => inferInstanceAs (Decidable (a ≤ b))
  | gt => inferInstanceAs (Decidable (b < a))
  | ge => inferInstanceAs (Decidable (b ≤ a))

/-- An operator accepts how two integers compare exactly if they stand in its relation. -/
theorem accepts_compare_iff {op : Operator} {a b : Int} : op.accepts (compare a b) = true ↔ op.Relates a b := by
  rcases lt_trichotomy a b with h | h | h
  · rw [compare_lt_iff_lt.2 h]
    cases op <;> simp [accepts, Relates] <;> omega
  · rw [compare_eq_iff_eq.2 h]
    cases op <;> simp [accepts, Relates] <;> omega
  · rw [compare_gt_iff_gt.2 h]
    cases op <;> simp [accepts, Relates] <;> omega

end Operator

/-- Of 64-bit integers, the integers are compared. -/
theorem Value.order_int (a b : Int64) : (int a).order (int b) = some (compare a.toInt b.toInt) := by
  have hcompare : compare a b = compareOfLessAndEq a.toInt b.toInt := by
    rw [← show compareOfLessAndEq a b = compare a b from rfl]
    simp only [compareOfLessAndEq, Int64.lt_iff_toInt_lt, Int64.toInt_inj]
  exact congrArg some hcompare

/-! ### Texts of integers -/

namespace Literal

variable {m : Int} {cs : List Char}

/-- The text of an integer is an item. -/
theorem isItem_of_intWritten (h : IntWritten m cs) : IsItem cs where
  ne_nil := h.ne_nil
  plain c hc := by
    rcases h.isDigit_or_minus c hc with hdigit | rfl
    · exact ⟨Text.not_isBlank_of_isDigit hdigit, by rintro rfl; exact absurd hdigit (by decide)⟩
    · decide
  dots hdots := by
    rcases h.isDigit_or_minus '.' (hdots.subset List.mem_cons_self) with hdigit | hminus
    · exact absurd hdigit (by decide)
    · exact absurd hminus (by decide)
  comma hc := by
    rcases h.isDigit_or_minus ',' hc with hdigit | hminus
    · exact absurd hdigit (by decide)
    · exact absurd hminus (by decide)

/-- The text of an integer denotes no date and no milestone. -/
theorem not_denotes_of_intWritten {context : Context} (h : IntWritten m cs) : ¬ ∃ l, Denotes context cs l := by
  rintro ⟨l, hl⟩
  cases hl with
  | relative hwritten _ =>
      rcases hwritten.head? with hhead | hhead
      · exact absurd (h.isDigit_or_minus 'n' (List.mem_of_head? hhead)) (by decide)
      · exact absurd (h.isDigit_or_minus 'c' (List.mem_of_head? hhead)) (by decide)
  | date hwritten _ =>
      obtain ⟨hyear, -, -, -⟩ := hwritten
      obtain ⟨c, year, rfl⟩ := List.exists_cons_of_ne_nil (Number.readNat?_eq_some_iff.1 hyear).1
      exact absurd (h.isDigit_of_mem_tail '-' (List.mem_append_right year List.mem_cons_self)) (by decide)

/-- The text of an integer stands for itself. -/
theorem ofRaw_of_intWritten {raw : String} (h : IntWritten m raw.toList) (context : Context) :
    ofRaw context raw.toList = [.text raw] := by
  have hitem := isItem_of_intWritten h
  rw [hitem.ofRaw_eq, (scalar_eq_text_iff hitem.unquote_trim).2 (not_denotes_of_intWritten h), String.ofList_toList]

/-- Integers meet a literal that each of them compares with like two integers, if an operator relates these. -/
theorem metBy_iff_of_order {values : List Value} (hints : ∀ v ∈ values, v.kind = .int) {l : Literal}
    {operand : Value} (hoperand : l.toValue? = some operand) {left : Int64 → Int} {right : Int}
    (horder : ∀ n, (Value.int n).order operand = some (compare (left n) right)) (op : Operator) :
    l.MetBy op values ↔ ∃ n, .int n ∈ values ∧ op.Relates (left n) right := by
  rw [metBy_of_not_isRange (isRange_of_toValue? hoperand)]
  constructor
  · rintro ⟨operand', hoperand', v, hv, o, ho, haccepts⟩
    obtain rfl : operand = operand' := Option.some.inj (hoperand.symm.trans hoperand')
    obtain ⟨n, rfl⟩ := Value.eq_int_of_kind (hints v hv)
    obtain rfl : compare (left n) right = o := Option.some.inj ((horder n).symm.trans ho)
    exact ⟨n, hv, Operator.accepts_compare_iff.1 haccepts⟩
  · rintro ⟨n, hn, hrelates⟩
    exact ⟨operand, hoperand, .int n, hn, _, horder n, Operator.accepts_compare_iff.2 hrelates⟩

/-- No integer meets a text. -/
theorem not_metBy_text {values : List Value} (hints : ∀ v ∈ values, v.kind = .int) (s : String) (op : Operator) :
    ¬ (text s).MetBy op values := by
  refine not_metBy_of_order rfl (fun v hv => ?_) op
  obtain ⟨n, rfl⟩ := Value.eq_int_of_kind (hints v hv)
  rfl

end Literal

/-! ### Codes -/

/-- The fields that hold codes of an enumeration. -/
theorem Field.enumerated_iff_mem {field : Field} :
    (∃ e, field.binding.enumeration = some e)
      ↔ field ∈ [.category, .featureType, .implStatusChrome, .intentStage, .standardMaturity] := by
  rw [← Option.isSome_iff_exists]
  cases field <;> decide

/-- A code is an integer that every feature carries once. -/
theorem Field.carriedOnce_of_enumerated {field : Field} {e : Enumeration} (h : field.binding.enumeration = some e) :
    field.CarriedOnce ∧ field.binding.property.kind = .int := by
  have hmem := enumerated_iff_mem.1 ⟨e, h⟩
  rw [carriedOnce_iff_mem]
  cases field <;> revert hmem <;> decide

/-- The integer that a text names in an enumeration. -/
theorem Enumeration.lookup?_of_intWritten {e : Enumeration} {n : Int64} {raw : String}
    (h : IntWritten n.toInt raw.toList) : e.lookup? raw = e.knownCode? n := by
  refine lookup?_of_readInt64? ?_
  rw [Text.trim_of_tight (Literal.isItem_of_intWritten h).tight, h.readInt64?_eq, Number.int64?_eq_some_iff]

section Codes

variable {store : Store} {name : String} {field : Field} {e : Enumeration} {n : Int64} {raw : String}

/-- The text of an integer is narrowed to a code, if it is one of the enumeration's, and stays a text otherwise. -/
theorem Binding.narrow_of_enumeration {binding : Binding} (henum : binding.enumeration = some e)
    (hraw : IntWritten n.toInt raw.toList) :
    binding.narrow (.text raw) = (e.knownCode? n).elim (.text raw) .code := by
  rw [narrow, narrowText, henum]
  dsimp only
  rw [Enumeration.lookup?_of_intWritten hraw]

/-- Where every feature carries one integer for a field, its values under an id are these integers. -/
theorem Field.CarriedOnce.exists_int_iff (h : field.CarriedOnce) (P : Int64 → Prop) (id : Int64) :
    (∃ values ∈ field.binding.valuesUnder store id, ∃ n, .int n ∈ values ∧ P n)
      ↔ ∃ feature ∈ store.features, feature.id = id
          ∧ ∃ n, Record.values feature field.binding.property = [.int n] ∧ P n := by
  constructor
  · rintro ⟨values, hvalues, n, hn, hP⟩
    obtain ⟨v, rfl⟩ := h.eq_singleton hvalues
    obtain ⟨feature, hmem, hid, hvalue⟩ := (Binding.mem_valuesUnder_primary h.target).1 hvalues
    rw [← List.mem_singleton.1 hn] at hvalue
    exact ⟨feature, hmem, hid, n, hvalue, hP⟩
  · rintro ⟨feature, hmem, hid, n, hvalue, hP⟩
    have hvalues := (Binding.mem_valuesUnder_primary h.target).2 ⟨feature, hmem, hid, hvalue⟩
    exact ⟨_, hvalues, n, List.mem_singleton_self _, hP⟩

/-- **Codes.** Of a field that holds codes of an enumeration, an integer that is a code of it selects the features
whose code the operator relates to it. An integer that is none selects nothing, whatever the operator is. -/
theorem Store.selectedBy_code (online : store.Online) (hname : Field.ofName? name = some field)
    (henum : field.binding.enumeration = some e) (hraw : IntWritten n.toInt raw.toList) (context : Context)
    (op : Operator) (id : Int64) :
    id ∈ store.selectedBy context name op raw
      ↔ (∃ label, (n, label) ∈ e.entries)
        ∧ ∃ feature ∈ store.features, feature.id = id
          ∧ ∃ code : Int64, Record.values feature field.binding.property = [.int code]
            ∧ op.Relates code.toInt n.toInt := by
  obtain ⟨honce, hkind⟩ := Field.carriedOnce_of_enumerated henum
  have hints : ∀ values ∈ field.binding.valuesUnder store id, ∀ v ∈ values, v.kind = .int :=
    fun values => field.kind_of_mem_valuesUnder hkind
  rw [mem_selectedBy_single_iff online hname honce.indexed (Literal.ofRaw_of_intWritten hraw context),
    Binding.narrow_of_enumeration henum hraw]
  by_cases hlisted : ∃ label, (n, label) ∈ e.entries
  · rw [Enumeration.knownCode?_eq_some_iff.2 ⟨rfl, hlisted⟩, Option.elim_some, and_iff_right hlisted,
      ← honce.exists_int_iff fun code => op.Relates code.toInt n.toInt]
    exact exists_congr fun values => and_congr_right fun hvalues =>
      Literal.metBy_iff_of_order (hints values hvalues) rfl (Value.order_int · n) op
  · have hunknown : e.knownCode? n = none := by
      rw [Option.eq_none_iff_forall_ne_some]
      intro found hfound
      exact hlisted (Enumeration.knownCode?_eq_some_iff.1 hfound).2
    rw [hunknown, Option.elim_none]
    refine iff_of_false ?_ fun h => hlisted h.1
    rintro ⟨values, hvalues, hmet⟩
    exact Literal.not_metBy_text (hints values hvalues) raw op hmet

/-- A feature of a category. -/
def Feature.inCategory (code : Int64) : Feature :=
  { Feature.ownedBy "ann" 1 false with category := code }

/-- A category is found below the next one. -/
theorem Store.selectedBy_code_below :
    IntWritten (15 : Int64).toInt (showInt64 15).toList
      ∧ 1 ∈ (ofRecords [.inCategory 14] [] [] []).selectedBy (.anonymousAt .epoch) "category" .lt (showInt64 15) := by
  have hraw : IntWritten (15 : Int64).toInt (showInt64 15).toList := Number.intWritten_showInt64 15
  exact ⟨hraw, (selectedBy_code (online_ofRecords [.inCategory 14] [] [] []) (Field.ofName?_spelling .category) rfl
    hraw (.anonymousAt .epoch) .lt 1).2
    ⟨⟨"Housekeeping", by decide⟩, .inCategory 14, by decide +kernel, rfl, 14, rfl, by decide⟩⟩

/-- A feature with a code that its enumeration does not have is not found by this code. -/
theorem Store.selectedBy_code_unnamed :
    (ofRecords [.inCategory 999] [] [] []).Online
      ∧ Field.ofName? "category" = some .category ∧ Field.category.binding.enumeration = some .category
      ∧ IntWritten (999 : Int64).toInt (showInt64 999).toList
      ∧ (∃ feature ∈ (ofRecords [.inCategory 999] [] [] []).features, feature.id = 1
          ∧ ∃ code : Int64, Record.values feature Field.category.binding.property = [.int code]
            ∧ Operator.eq.Relates code.toInt (999 : Int64).toInt)
      ∧ 1 ∉ (ofRecords [.inCategory 999] [] [] []).selectedBy (.anonymousAt .epoch) "category" .eq (showInt64 999) :=
  ⟨online_ofRecords _ _ _ _, Field.ofName?_spelling .category, rfl, Number.intWritten_showInt64 999,
    ⟨.inCategory 999, by decide +kernel, rfl, 999, rfl, rfl⟩, by decide +kernel⟩

end Codes

/-! ### Integers -/

/-- A field that holds integers which are no codes, and that can be filtered on. -/
@[mk_iff]
structure Field.HoldsIntegers (field : Field) : Prop where
  enumeration : field.binding.enumeration = none
  kind : field.binding.property.kind = .int
  indexed : field.binding.indexed = true

/-- The fields that hold integers. -/
theorem Field.holdsIntegers_iff_mem {field : Field} :
    field.HoldsIntegers
      ↔ field ∈ [.id, .shippingYear, .starCount, .desktop, .android, .ios, .webview, .originTrialDesktopStart,
          .originTrialDesktopEnd, .originTrialAndroidStart, .originTrialAndroidEnd, .devTrialDesktopStart,
          .devTrialAndroidStart, .rolloutMilestone] := by
  rw [holdsIntegers_iff]
  cases field <;> decide

section Integers

variable {store : Store} {name : String} {field : Field}

/-- The operand of an integer: all 64-bit integers compare with it as with the integer, if they are not blurred. -/
theorem Field.HoldsIntegers.exists_operand (h : field.HoldsIntegers) {m : Int} {raw : String}
    (hm : IntWritten m raw.toList) :
    ∃ operand, (field.binding.narrow (.text raw)).toValue? = some operand
      ∧ ∀ n : Int64, (Value.int n).order operand
          = some (compare (if Double.Blurred n.toInt m then m else n.toInt) m) := by
  rw [Binding.narrow, Binding.narrowText, h.enumeration, h.kind]
  dsimp only
  rw [Binding.narrowToInt, hm.readInt64?_eq]
  cases hint : int64? m with
  | some k =>
      rw [Number.int64?_eq_some_iff] at hint
      refine ⟨.int k, rfl, fun n => ?_⟩
      rw [Value.order_int, hint, if_neg]
      have hlow := Int64.le_toInt k
      have hhigh := Int64.toInt_lt k
      rintro (⟨hbeyond, -⟩ | ⟨hbeyond, -⟩)
      · omega
      · omega
  | none =>
      obtain ⟨x, hread, hx⟩ := hm.exists_double
      refine ⟨.float x, by rw [hread]; rfl, fun n => ?_⟩
      exact Double.order_ofInt_of_beyond ⟨Int64.le_toInt n, Int64.toInt_lt n⟩ (Number.int64?_eq_none_iff.1 hint) hx

/-- **Integers.** Of a field that holds integers, an integer selects what has a value that the operator relates to
it. An integer a little beyond 64 bits and a value near this end of the 64-bit integers count as equal. -/
theorem Store.selectedBy_integer (online : store.Online) (hname : Field.ofName? name = some field)
    (hintegers : field.HoldsIntegers) {m : Int} {raw : String} (hraw : IntWritten m raw.toList) (context : Context)
    (op : Operator) (id : Int64) :
    id ∈ store.selectedBy context name op raw
      ↔ ∃ values ∈ field.binding.valuesUnder store id, ∃ n : Int64, .int n ∈ values
          ∧ op.Relates (if Double.Blurred n.toInt m then m else n.toInt) m := by
  obtain ⟨operand, hoperand, horder⟩ := hintegers.exists_operand hraw
  rw [mem_selectedBy_single_iff online hname hintegers.indexed (Literal.ofRaw_of_intWritten hraw context)]
  refine exists_congr fun values => and_congr_right fun hvalues => ?_
  exact Literal.metBy_iff_of_order (field.kind_of_mem_valuesUnder hintegers.kind hvalues) hoperand horder op

/-- A feature with so many stars. -/
def Feature.starredBy (count : Int64) : Feature :=
  { Feature.ownedBy "ann" 1 false with starCount := count }

/-- The largest 64-bit integer is below an integer that lies more than half a step above it. -/
theorem Store.selectedBy_integer_beyond :
    IntWritten 9223372036854776833 "9223372036854776833".toList
      ∧ 1 ∈ (ofRecords [.starredBy Int64.maxValue] [] [] []).selectedBy (.anonymousAt .epoch) "star_count" .lt
          "9223372036854776833" := by
  have hraw : IntWritten 9223372036854776833 "9223372036854776833".toList := .of_readNat? (by decide +kernel) rfl
  have hintegers : Field.starCount.HoldsIntegers := Field.holdsIntegers_iff_mem.2 (by decide)
  exact ⟨hraw, (selectedBy_integer (online_ofRecords [.starredBy Int64.maxValue] [] [] [])
    (Field.ofName?_spelling .starCount) hintegers hraw (.anonymousAt .epoch) .lt 1).2
    ⟨[.int Int64.maxValue], by decide +kernel, Int64.maxValue, List.mem_singleton_self _, by decide⟩⟩

/-- The largest 64-bit integer counts as equal to the next integer. -/
theorem Store.selectedBy_integer_blurred :
    (ofRecords [.starredBy Int64.maxValue] [] [] []).Online
      ∧ Field.ofName? "star_count" = some .starCount ∧ Field.starCount.HoldsIntegers
      ∧ IntWritten 9223372036854775808 "9223372036854775808".toList
      ∧ 1 ∈ (ofRecords [.starredBy Int64.maxValue] [] [] []).selectedBy (.anonymousAt .epoch) "star_count" .eq
          "9223372036854775808"
      ∧ ¬ ∃ values ∈ Field.starCount.binding.valuesUnder (ofRecords [.starredBy Int64.maxValue] [] [] []) 1,
          ∃ n : Int64, .int n ∈ values ∧ Operator.eq.Relates n.toInt 9223372036854775808 := by
  refine ⟨online_ofRecords _ _ _ _, Field.ofName?_spelling .starCount, Field.holdsIntegers_iff_mem.2 (by decide),
    .of_readNat? (by decide +kernel) rfl, by decide +kernel, ?_⟩
  rintro ⟨-, -, n, -, hequal⟩
  exact absurd (Int64.toInt_lt n) (by rw [show n.toInt = 9223372036854775808 from hequal]; decide)

end Integers

end FeatureQuery
