import FeatureQuery.Proofs.Answers.CallerField

/-!
# Answers to queries

What the store answers to a term is right about every feature, whatever kind of test the term has. Combining
answers that are right gives the features that the query is true of: a term whose answer is taken away and one
whose answer is kept are each satisfied exactly as the term says.

## Main results

* `Setting.rightAbout_resolveTerm`: the answer to a term is right about every feature.
* `AnsweredClause.mem_ids_iff`: an alternative matches the features that all its terms are true of.
* `Store.mem_combine_iff`: what a query matches, given answers that are right.
* `Setting.mem_combine_iff`: a feature is among the matches of a query exactly if the query is true of it.
-/

namespace FeatureQuery

/-- **Terms.** The answer to a term is right about every feature. -/
theorem Setting.rightAbout_resolveTerm {setting : Setting} {feature : Feature}
    (consistent : setting.store.Consistent) (online : setting.store.Online)
    (hmem : feature ∈ setting.store.features) (term : Term) :
    (setting.resolveTerm term).value.answer.RightAbout term.negated feature
      (term.test.Holds setting feature) := by
  rw [resolveTerm, Test.Holds.eq_def]
  cases CallerField.ofTest? term.test with
  | some identity => exact identity.rightAbout_resolve consistent online hmem term.negated
  | none =>
      cases term.test with
      | field name op raw =>
          dsimp only
          rw [Store.resolveField]
          cases hname : Field.ofName? name with
          | none =>
              refine Resolved.rightAbout_empty fun h => ?_
              obtain ⟨field, hfield, -⟩ := h
              exact absurd hfield (by simp)
          | some field =>
              simp only [Option.some.injEq, exists_eq_left']
              exact field.rightAbout_resolveKnown consistent online hmem op raw term.negated
      | text content =>
          dsimp only [Noted.value_pure]
          rw [Store.resolveText, online.searchText]
          refine Resolved.rightAbout_plain ?_
          rw [IdSet.mem_ofList, ← IdSet.mem_def]
          exact consistent.mem_search hmem

/-! ### Matches of a query -/

/-- The answers to the terms of a query are those to each term alone. -/
theorem Setting.value_answers (setting : Setting) (query : Query) :
    (setting.answers query).value
      = query.terms.map fun term => (setting.resolveTerm term).value.answer := by
  rw [answers, Noted.value_bind, Noted.value_mapM, Lookup.value_join, List.map_map]
  rfl

/-- Of a query without terms everything is true, and so it is of one without alternatives. -/
theorem Query.exists_clause_iff {query : Query} {holds : Term → Prop} :
    (query.terms = [] ∨ ∃ clause ∈ query.clauses, ∀ term ∈ clause, holds term)
      ↔ query.clauses = [] ∨ ∃ clause ∈ query.clauses, ∀ term ∈ clause, holds term := by
  constructor
  · rintro (hterms | hclause)
    · cases hclauses : query.clauses with
      | nil => exact Or.inl rfl
      | cons clause clauses =>
          rw [terms, hclauses, List.flatten_cons, List.append_eq_nil_iff] at hterms
          refine Or.inr ⟨clause, List.mem_cons_self, fun term hterm => ?_⟩
          rw [hterms.1] at hterm
          exact absurd hterm List.not_mem_nil
    · exact Or.inr hclause
  · rintro (hclauses | hclause)
    · exact Or.inl (by rw [terms, hclauses, List.flatten_nil])
    · exact Or.inr hclause

/-- A feature is in an intersection if it is in every set, of none as well. -/
theorem mem_intersection_iff {all : IdSet} {sets : List IdSet} {id : Int64} (hall : id ∈ all) :
    id ∈ intersection all sets ↔ ∀ s ∈ sets, id ∈ s := by
  cases sets with
  | nil => exact iff_of_true hall fun s hs => absurd hs List.not_mem_nil
  | cons s sets => exact mem_intersection_cons

/-- An alternative whose answers are right, given what holds for each term, matches a feature exactly if all its
terms are true of it. -/
theorem AnsweredClause.mem_ids_iff {feature : Feature} {all : IdSet} (hall : feature.id ∈ all)
    {clause : AnsweredClause} {holds : Term → Prop}
    (hright : ∀ a ∈ clause, a.answer.RightAbout a.term.negated feature (holds a.term)) :
    feature.id ∈ clause.ids all ↔ ∀ a ∈ clause, Xor (holds a.term) (a.term.negated = true) := by
  have hterm : ∀ a ∈ clause, Xor (holds a.term) (a.term.negated = true)
      ↔ if a.isExcluded then feature.id ∉ a.answer.ids else feature.id ∈ a.answer.ids := by
    intro a ha
    have hmem := (hright a ha).mem_iff
    have honly := (hright a ha).negated_of_complemented
    rw [AnsweredTerm.isExcluded, hmem]
    cases hnegated : a.term.negated <;> cases hcomplemented : a.answer.complemented
    · rw [if_neg (by decide)]
    · exact absurd ((honly hcomplemented).symm.trans hnegated) (by decide)
    · rw [if_pos (by decide), xor_marked, xor_unmarked]
    · rw [if_neg (by decide)]
  rw [mem_ids, mem_intersection_iff hall]
  constructor
  · rintro ⟨hincluded, hexcluded⟩ a ha
    refine (hterm a ha).2 ?_
    split
    · next hex => exact hexcluded _ (List.mem_map_of_mem (List.mem_filter.2 ⟨ha, hex⟩))
    · next hex => exact hincluded _ (List.mem_map_of_mem (List.mem_filter.2 ⟨ha, by simpa using hex⟩))
  · intro hterms
    constructor
    · intro s hs
      obtain ⟨a, ha, rfl⟩ := List.mem_map.1 hs
      obtain ⟨ha, hex⟩ := List.mem_filter.1 ha
      have hholds := (hterm a ha).1 (hterms a ha)
      rwa [if_neg (by simpa using hex)] at hholds
    · intro s hs
      obtain ⟨a, ha, rfl⟩ := List.mem_map.1 hs
      obtain ⟨ha, hex⟩ := List.mem_filter.1 ha
      have hholds := (hterm a ha).1 (hterms a ha)
      rwa [if_pos hex] at hholds

/-- A query whose answers are right, given what holds for each term, matches a feature exactly if it has no terms,
or if all terms of one of its alternatives are true of it. -/
theorem Store.mem_combine_iff {store : Store} {feature : Feature} (hall : feature.id ∈ store.allIds.value)
    (query : Query) {answer : Term → Resolved} {holds : Term → Prop}
    (hright : ∀ term, (answer term).RightAbout term.negated feature (holds term)) :
    feature.id ∈ (store.combine query (query.terms.map answer)).value
      ↔ query.terms = [] ∨ ∃ clause ∈ query.clauses, ∀ term ∈ clause,
          Xor (holds term) (term.negated = true) := by
  rw [value_combine, Query.combineFrom, Query.exists_clause_iff]
  by_cases hempty : query.isEmpty = true
  · rw [if_pos hempty]
    exact iff_of_true hall (Or.inl (List.isEmpty_iff.1 hempty))
  · rw [if_neg hempty, Query.mem_matchesOf, Query.terms, Query.pairClauses_map]
    have hne : query.clauses ≠ [] := by
      intro h
      exact hempty (List.isEmpty_iff.2 h)
    simp only [hne, false_or, List.mem_map, exists_exists_and_eq_and]
    refine exists_congr fun clause => and_congr_right fun _ => ?_
    have hclause : ∀ a ∈ clause.map fun term => AnsweredTerm.mk term (answer term),
        a.answer.RightAbout a.term.negated feature (holds a.term) := by
      intro a ha
      obtain ⟨term, -, rfl⟩ := List.mem_map.1 ha
      exact hright term
    rw [AnsweredClause.mem_ids_iff hall hclause]
    simp only [List.mem_map, forall_exists_index, and_imp, forall_apply_eq_imp_iff₂]

/-- **Queries.** A feature is among the matches of a query exactly if the query is true of it. -/
theorem Setting.mem_combine_iff (setting : Setting) (consistent : setting.store.Consistent)
    (online : setting.store.Online) {feature : Feature} (hmem : feature ∈ setting.store.features)
    (query : Query) :
    feature.id ∈ (setting.store.combine query (setting.answers query).value).value
      ↔ query.Holds setting feature := by
  have hall : feature.id ∈ setting.store.allIds.value := Store.mem_allIds (online .feature) |>.2 ⟨feature, hmem, rfl⟩
  rw [value_answers]
  exact Store.mem_combine_iff hall query (rightAbout_resolveTerm consistent online hmem)

end FeatureQuery
