import FeatureQuery.Proofs.Answers.Selected
import FeatureQuery.Proofs.Literal.Lists
import FeatureQuery.Proofs.Literal.Written

/-!
# Texts in quotes

A text in quotes is one item, whatever commas are in it, and stands for itself, unless it denotes a date or a
milestone: what is written like one is read as one also in quotes. A field that holds texts never has a date or a
milestone for its value, so a test for equality with such a text selects nothing. Two dots in a text make a range
of it also in quotes, if they occur exactly once.

## Main results

* `Literal.ofRaw_quoted`: a text in quotes denotes one scalar.
* `Store.selectedBy_quoted`: what a text in quotes selects.
-/

namespace FeatureQuery

open FeatureQuery.Text (Tight isBlank splitDots trim)

/-! ### One item -/

namespace Literal

/-- A text between quotes is one item. -/
theorem splitList_quoted {cs : List Char} (hne : cs ≠ []) (hquote : '"' ∉ cs) :
    splitList ('"' :: (cs ++ ['"'])) = [cs] := by
  have htight : Tight ('"' :: (cs ++ ['"'])) := by
    constructor
    · intro c hc
      rw [← Option.some.inj hc]
      decide
    · intro c hc
      rw [← List.cons_append, List.getLast?_concat] at hc
      rw [← Option.some.inj hc]
      decide
  have hunquote : unquote ('"' :: (cs ++ ['"'])) = cs := unquote_quoted cs
  rw [splitList, (balanced_quoted hquote).splitCommas_eq, List.map_singleton, Text.trim_of_tight htight, hunquote]
  simp [hne]

/-- **Quotes.** A text between quotes denotes one scalar, unless two dots occur in it exactly once. -/
theorem ofRaw_quoted {cs : List Char} (hne : cs ≠ []) (hquote : '"' ∉ cs) (hdots : (splitDots cs).length ≠ 2)
    (context : Context) : ofRaw context ('"' :: (cs ++ ['"'])) = [scalar context cs] := by
  have hlength : (splitDots ('"' :: (cs ++ ['"']))).length ≠ 2 := by
    rwa [Text.length_splitDots_cons fun h => absurd h.1 (by decide), Text.length_splitDots_concat (by decide)]
  rw [ofRaw]
  split
  · next low high hpieces => exact absurd (congrArg List.length hpieces) hlength
  · rw [splitList_quoted hne hquote]
    rfl

end Literal

/-! ### Fields of texts -/

/-- A field that holds texts of features, and that can be filtered on. -/
@[mk_iff]
structure Field.HoldsTexts (field : Field) : Prop where
  target : field.binding.target = .primary
  enumeration : field.binding.enumeration = none
  kind : field.binding.property.kind = .text
  indexed : field.binding.indexed = true

/-- The fields that hold texts. -/
theorem Field.holdsTexts_iff_mem {field : Field} :
    field.HoldsTexts ↔ field ∈ [.owner, .editor, .cc, .creator, .blinkComponent] := by
  rw [holdsTexts_iff]
  cases field <;> decide

namespace Literal

variable {values : List Value}

/-- Among texts, equality with a text is met by the text itself. -/
theorem metBy_eq_text_iff (htexts : ∀ v ∈ values, v.kind = .text) (s : String) :
    (text s).MetBy .eq values ↔ .text s ∈ values := by
  rw [← Filter.accepts_eq_text_iff (p := .name) htexts, Filter.accepts_compare_iff]
  simp only [MetBy, ComparesWith, toValue?, Option.some.injEq, exists_eq_left']

/-- No text meets a date or a milestone. -/
theorem Denotes.not_metBy {context : Context} {cs : List Char} {l : Literal} (h : Denotes context cs l)
    (htexts : ∀ v ∈ values, v.kind = .text) (op : Operator) : ¬ l.MetBy op values := by
  rcases h.cases with ⟨t, rfl⟩ | ⟨n, rfl⟩
  · refine not_metBy_of_order rfl (fun v hv => ?_) op
    obtain ⟨s, rfl⟩ := Value.eq_text_of_kind (htexts v hv)
    rfl
  · refine not_metBy_of_order rfl (fun v hv => ?_) op
    obtain ⟨s, rfl⟩ := Value.eq_text_of_kind (htexts v hv)
    rfl

end Literal

section Texts

variable {store : Store} {name : String} {field : Field}

/-- Of a field that holds texts, a text is bound as it is. -/
theorem Field.HoldsTexts.narrow_text (h : field.HoldsTexts) (s : String) :
    field.binding.narrow (.text s) = .text s := by
  rw [Binding.narrow, Binding.narrowText, h.enumeration, h.kind]

/-- **Texts in quotes.** Of a field that holds texts, equality with a text in quotes, which two dots make no range
of, selects the features that have the text for a value, unless it is written like a date or a milestone that
exists: then it selects nothing. -/
theorem Store.selectedBy_quoted (online : store.Online) (hname : Field.ofName? name = some field)
    (htexts : field.HoldsTexts) {s : String} (hne : s ≠ "") (htight : Tight s.toList) (hquote : '"' ∉ s.toList)
    (hdots : (splitDots s.toList).length ≠ 2) (context : Context) (id : Int64) :
    id ∈ store.selectedBy context name .eq ("\"" ++ s ++ "\"")
      ↔ (¬ ∃ l, Literal.Denotes context s.toList l)
        ∧ ∃ feature ∈ store.features, feature.id = id ∧ .text s ∈ Record.values feature field.binding.property := by
  have hplain : Literal.unquote (trim s.toList) = s.toList := by
    rw [Text.trim_of_tight htight]
    exact Literal.unquote_of_head fun hhead => hquote (List.mem_of_head? hhead)
  have hraw : Literal.ofRaw context ("\"" ++ s ++ "\"").toList = [Literal.scalar context s.toList] := by
    rw [← Literal.ofRaw_quoted (by simpa using hne) hquote hdots context]
    simp
  have hkinds : ∀ values ∈ field.binding.valuesUnder store id, ∀ v ∈ values, v.kind = .text :=
    fun values => field.kind_of_mem_valuesUnder htexts.kind
  rw [mem_selectedBy_single_iff online hname htexts.indexed hraw]
  by_cases hdenotes : ∃ l, Literal.Denotes context s.toList l
  · refine iff_of_false ?_ fun h => h.1 hdenotes
    obtain ⟨l, hl⟩ := hdenotes
    rintro ⟨values, hvalues, hmet⟩
    rw [Literal.scalar_of_denotes hl hplain] at hmet
    have hnarrow : field.binding.narrow l = l := by
      rcases hl.cases with ⟨t, rfl⟩ | ⟨n, rfl⟩
      · rfl
      · rfl
    rw [hnarrow] at hmet
    exact hl.not_metBy (hkinds values hvalues) .eq hmet
  · rw [(Literal.scalar_eq_text_iff hplain).2 hdenotes, String.ofList_toList, htexts.narrow_text]
    constructor
    · rintro ⟨values, hvalues, hmet⟩
      obtain ⟨feature, hmem, hid, rfl⟩ := (Binding.mem_valuesUnder_primary htexts.target).1 hvalues
      exact ⟨hdenotes, feature, hmem, hid, (Literal.metBy_eq_text_iff (hkinds _ hvalues) s).1 hmet⟩
    · rintro ⟨-, feature, hmem, hid, hvalue⟩
      have hvalues := (Binding.mem_valuesUnder_primary htexts.target).2 ⟨feature, hmem, hid, rfl⟩
      exact ⟨_, hvalues, (Literal.metBy_eq_text_iff (hkinds _ hvalues) s).2 hvalue⟩

/-- A comma in quotes is part of the text. -/
theorem Store.selectedBy_quoted_comma :
    (¬ ∃ l, Literal.Denotes (.anonymousAt .epoch) "Lee, Ann".toList l)
      ∧ 1 ∈ (ofRecords [.ownedBy "Lee, Ann" 1 false] [] [] []).selectedBy (.anonymousAt .epoch) "owner" .eq
          ("\"" ++ "Lee, Ann" ++ "\"") := by
  have hplain : ¬ ∃ l, Literal.Denotes (.anonymousAt .epoch) "Lee, Ann".toList l :=
    (Literal.scalar_eq_text_iff (by decide +kernel)).1 (by decide +kernel)
  have htight : Tight "Lee, Ann".toList :=
    ⟨fun c hc => Option.some.inj hc ▸ (by decide +kernel), fun c hc => Option.some.inj hc ▸ (by decide +kernel)⟩
  refine ⟨hplain, (selectedBy_quoted (online_ofRecords _ _ _ _) (Field.ofName?_spelling .owner)
    (Field.holdsTexts_iff_mem.2 (by decide)) (by decide) htight (by decide) (by decide) (.anonymousAt .epoch) 1).2
    ⟨hplain, .ownedBy "Lee, Ann" 1 false, by decide +kernel, rfl, by decide +kernel⟩⟩

/-- A text that is written like a date is not found in quotes. Nor is one that two dots make a range of, if it does
not lie in this range. -/
theorem Store.selectedBy_quoted_date :
    (∀ s ∈ ["2024-01-04", "b..a"], (ofRecords [.ownedBy s 1 false] [] [] []).Online
        ∧ .text s ∈ Record.values (.ownedBy s 1 false : Feature) Field.owner.binding.property)
      ∧ ∀ s ∈ ["2024-01-04", "b..a"], 1 ∉ (ofRecords [.ownedBy s 1 false] [] [] []).selectedBy
          (.anonymousAt .epoch) "owner" .eq ("\"" ++ s ++ "\"") :=
  ⟨fun _ _ => ⟨online_ofRecords _ _ _ _, List.mem_singleton_self _⟩, by decide +kernel⟩

end Texts

end FeatureQuery
