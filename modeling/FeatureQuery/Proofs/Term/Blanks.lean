import FeatureQuery.Proofs.Literal.Collapsing
import FeatureQuery.Proofs.Record.Kinds
import FeatureQuery.Proofs.Term.Collapsing
import Mathlib.Data.List.Forall2

/-!
# What blanks mean

Two queries with the same collapsed form differ in the blanks inside quotes only. Nearly all tests are blind to
these: the words of a text, numbers, dates, and the names of an enumeration's values are the same with and
without them. The exception are the fields that hold texts, which are compared as they stand.

## Main results

* `Test.holds_congr_collapsed`: two tests with the same collapsed form hold of the same features, if they
  compare texts with the same literals.
* `Query.holds_congr_collapsed`: and so for queries.
-/

namespace FeatureQuery

open FeatureQuery.Text (collapse isAlphanumeric isBlank)

/-! ### Tests that are blind to blanks -/

/-- Blanks separate words, however many there are. -/
theorem indexWords_collapse (content : String) :
    indexWords (String.ofList (collapse content.toList)) = indexWords content := by
  have hblank : ∀ c, isBlank c = true → (!isAlphanumeric c) = true := Text.forall_blank (by decide +kernel)
  rw [indexWords, indexWords, String.toList_ofList, Text.wordsBetween_collapse hblank]

/-- Only quotes are taken off the ends of a text. -/
theorem CallerField.mem_or_of_mem_trimQuotes {cs : List Char} {c : Char} (h : c ∈ cs) :
    c = '"' ∨ c ∈ trimQuotes cs := by
  have key : ∀ {ds : List Char}, c ∈ ds → c = '"' ∨ c ∈ ds.dropWhile (· == '"') := by
    intro ds hds
    rw [← List.takeWhile_append_dropWhile (p := (· == '"')) (l := ds), List.mem_append] at hds
    refine hds.imp_left fun hquote => ?_
    exact eq_of_beq (List.all_eq_true.1 List.all_takeWhile c hquote)
  rcases key h with hquote | hstart
  · exact Or.inl hquote
  · exact (key (List.mem_reverse.2 hstart)).imp_right List.mem_reverse.2

/-- No blank stands in a value that makes a test one about the caller. -/
theorem CallerField.not_isBlank_of_ofParts? {name raw : String} {field : CallerField}
    (h : ofParts? name raw = some field) : ∀ c ∈ raw.toList, isBlank c = false := by
  have hword : folded (trimQuotes raw.toList) = "me"
      ∨ folded (trimQuotes raw.toList) = "recently-reviewed" := by
    rw [ofParts?] at h
    split at h
    · next heq => exact Or.inl heq
    · next heq => exact Or.inl heq
    · next heq => exact Or.inl heq
    · next heq => exact Or.inl heq
    · next heq => exact Or.inl heq
    · next heq => exact Or.inl heq
    · next heq => exact Or.inr heq
    · exact absurd h (by simp)
  have hplain : ∀ {word : String}, word.toList.all (fun c => !isBlank c) = true →
      folded (trimQuotes raw.toList) = word → ∀ c ∈ trimQuotes raw.toList, isBlank c = false := by
    intro word hall heq
    refine not_isBlank_of_word hall ?_
    rw [← heq, folded, String.toList_ofList]
    rfl
  intro c hc
  rcases mem_or_of_mem_trimQuotes hc with rfl | hmem
  · decide
  · rcases hword with heq | heq
    · exact hplain (by decide) heq c hmem
    · exact hplain (by decide) heq c hmem

/-- Blanks do not make a test one about the caller. -/
theorem CallerField.ofTest?_collapsed (test : Test) : ofTest? test.collapsed = ofTest? test := by
  cases test with
  | text content => rfl
  | field name op raw =>
      cases op with
      | eq =>
          have hread := Text.reader_collapse
            (fun cs field (h : ofParts? name (String.ofList cs) = some field) => by
              have hplain := not_isBlank_of_ofParts? h
              rwa [String.toList_ofList] at hplain) raw.toList
          rwa [String.ofList_toList] at hread
      | _ => rfl

/-- The values of a property that holds no texts are no texts. -/
theorem Binding.kind_of_mem_valuesOf {binding : Binding} (h : binding.property.kind ≠ .text)
    {store : Store} {feature : Feature} {values : List Value}
    (hvalues : values ∈ binding.valuesOf store feature) : ∀ v ∈ values, v.kind ≠ .text := by
  intro v hv
  rw [valuesOf] at hvalues
  cases htarget : binding.target with
  | primary =>
      rw [htarget] at hvalues
      rw [List.mem_singleton.1 hvalues] at hv
      rw [(LawfulRecord.describes feature binding.property).kind_of_mem v hv]
      exact h
  | joined stageTypes =>
      rw [htarget] at hvalues
      obtain ⟨stage, -, rfl⟩ := List.mem_map.1 hvalues
      rw [(LawfulRecord.describes stage binding.property).kind_of_mem v hv]
      exact h

/-- A test of a field that holds no texts is blind to blanks. -/
theorem Field.holds_collapse {field : Field} (h : field.binding.property.kind ≠ .text) (setting : Setting)
    (op : Operator) (raw : String) (feature : Feature) :
    field.Holds setting op (String.ofList (collapse raw.toList)) feature
      ↔ field.Holds setting op raw feature := by
  refine and_congr_right fun _ => exists_congr fun values => and_congr_right fun hvalues => ?_
  have hkinds := Binding.kind_of_mem_valuesOf h hvalues
  rw [Binding.literalsFor_collapse]
  constructor
  · rintro ⟨_, hmem, hmet⟩
    obtain ⟨l, hl, rfl⟩ := List.mem_map.1 hmem
    exact ⟨l, hl, (Literal.MetBy.collapsed_iff hkinds l).1 hmet⟩
  · rintro ⟨l, hl, hmet⟩
    exact ⟨l.collapsed, List.mem_map_of_mem hl, (Literal.MetBy.collapsed_iff hkinds l).2 hmet⟩

/-! ### Tests that compare texts -/

/-- A test compares a field's texts as they stand. -/
def Test.comparesTexts : Test → Bool
  | .field name _ _ =>
    (Field.ofName? name).any fun field => field.binding.indexed && field.binding.property.kind = .text
  | .text _ => false

/-- The literals of a test of a field. -/
def Test.literals (context : Context) : Test → List Literal
  | .field _ _ raw => Literal.ofRaw context raw.toList
  | .text _ => []

/-- If a test compares texts, another one has the same literals. -/
def Test.TextsAgree (test other : Test) : Prop :=
  test.comparesTexts = true → ∀ context, test.literals context = other.literals context

/-- A test of a field that has the same literals holds of the same features. -/
theorem Field.holds_congr_literals {setting : Setting} {raw raw' : String}
    (h : Literal.ofRaw setting.context raw.toList = Literal.ofRaw setting.context raw'.toList) (field : Field)
    (op : Operator) (feature : Feature) :
    field.Holds setting op raw feature ↔ field.Holds setting op raw' feature := by
  rw [Holds, Holds, Store.literalsFor, Store.literalsFor, h]

/-- **Tests.** Two tests with the same collapsed form hold of the same features, if they compare texts with
the same literals. -/
theorem Test.holds_congr_collapsed {test other : Test} (hcollapsed : test.collapsed = other.collapsed)
    (htexts : test.TextsAgree other) (setting : Setting) (feature : Feature) :
    test.Holds setting feature ↔ other.Holds setting feature := by
  have hcaller : CallerField.ofTest? test = CallerField.ofTest? other := by
    rw [← CallerField.ofTest?_collapsed test, hcollapsed, CallerField.ofTest?_collapsed]
  rw [Holds.eq_def, Holds.eq_def, hcaller]
  cases CallerField.ofTest? other with
  | some identity => exact Iff.rfl
  | none =>
      cases test with
      | text content =>
          cases other with
          | text content' =>
              have hwords := congrArg indexWords (Test.text.inj hcollapsed)
              rw [indexWords_collapse, indexWords_collapse] at hwords
              dsimp only
              rw [hwords]
          | field name op raw => exact absurd hcollapsed (by simp [collapsed])
      | field name op raw =>
          cases other with
          | text content => exact absurd hcollapsed (by simp [collapsed])
          | field name' op' raw' =>
              obtain ⟨rfl, rfl, hraw⟩ := Test.field.inj hcollapsed
              refine exists_congr fun field => and_congr_right fun hfield => ?_
              by_cases htext : field.binding.property.kind = .text
              · by_cases hindexed : field.binding.indexed = true
                · refine field.holds_congr_literals (htexts ?_ setting.context) op feature
                  simp [comparesTexts, hfield, htext, hindexed]
                · exact iff_of_false (fun h => hindexed h.1) fun h => hindexed h.1
              · rw [← field.holds_collapse htext setting op raw feature, hraw,
                  field.holds_collapse htext setting op raw' feature]

/-! ### Queries -/

/-- Two queries compare texts with the same literals, test by test. -/
def Query.TextsAgree (query other : Query) : Prop :=
  List.Forall₂ (List.Forall₂ fun term other => term.test.TextsAgree other.test) query.clauses other.clauses

/-- Two terms with the same collapsed form are true of the same features, if they compare texts with the same
literals. -/
theorem Term.holds_congr_collapsed {term other : Term} (hcollapsed : term.collapsed = other.collapsed)
    (htexts : term.test.TextsAgree other.test) (setting : Setting) (feature : Feature) :
    term.Holds setting feature ↔ other.Holds setting feature := by
  obtain ⟨hnegated, -, htest⟩ := Term.mk.inj hcollapsed
  rw [Holds, Holds, hnegated, Test.holds_congr_collapsed htest htexts setting feature]

/-- So are all terms of two clauses. -/
theorem Clause.holds_congr_collapsed {clause other : Clause}
    (htexts : List.Forall₂ (fun term other : Term => term.test.TextsAgree other.test) clause other)
    (hcollapsed : clause.map Term.collapsed = other.map Term.collapsed) (setting : Setting)
    (feature : Feature) :
    (∀ term ∈ clause, term.Holds setting feature) ↔ ∀ term ∈ other, term.Holds setting feature := by
  induction htexts with
  | nil => exact Iff.rfl
  | cons hterm _ ih =>
      rw [List.map_cons, List.map_cons, List.cons.injEq] at hcollapsed
      rw [List.forall_mem_cons, List.forall_mem_cons]
      exact and_congr (Term.holds_congr_collapsed hcollapsed.1 hterm setting feature) (ih hcollapsed.2)

/-- Of two lists of clauses, one has a clause whose terms are all true if the other has. -/
theorem Clause.exists_holds_congr_collapsed {clauses others : List Clause}
    (htexts : List.Forall₂ (List.Forall₂ fun term other : Term => term.test.TextsAgree other.test)
      clauses others)
    (hcollapsed : (clauses.map fun clause => clause.map Term.collapsed)
      = others.map fun clause => clause.map Term.collapsed) (setting : Setting) (feature : Feature) :
    (∃ clause ∈ clauses, ∀ term ∈ clause, term.Holds setting feature)
      ↔ ∃ clause ∈ others, ∀ term ∈ clause, term.Holds setting feature := by
  induction htexts with
  | nil => exact Iff.rfl
  | cons hclause _ ih =>
      rw [List.map_cons, List.map_cons, List.cons.injEq] at hcollapsed
      rw [List.exists_mem_cons_iff, List.exists_mem_cons_iff]
      exact or_congr (holds_congr_collapsed hclause hcollapsed.1 setting feature) (ih hcollapsed.2)

/-- **Queries.** Two queries with the same collapsed form are true of the same features, if they compare texts
with the same literals. -/
theorem Query.holds_congr_collapsed {query other : Query} (hcollapsed : query.collapsed = other.collapsed)
    (htexts : query.TextsAgree other) (setting : Setting) (feature : Feature) :
    query.Holds setting feature ↔ other.Holds setting feature := by
  have hnil : query.terms = [] ↔ other.terms = [] := by
    rw [← List.map_eq_nil_iff (f := Term.collapsed), ← terms_collapsed, hcollapsed, terms_collapsed,
      List.map_eq_nil_iff]
  exact or_congr hnil
    (Clause.exists_holds_congr_collapsed htexts (Query.mk.inj hcollapsed) setting feature)

end FeatureQuery
