import FeatureQuery.Proofs.Page

/-!
# Alternatives of a query

An alternative is a run of neighbouring terms that cannot be made longer: it starts with the first term of all or
with one that is marked with `OR`, and goes on as long as no other term is marked. The answers to the terms of all
alternatives stand in one list, and each term is combined with the answer that stands in its own place. Given the
terms with their answers, what a query matches can therefore be said without grouping anything: a feature matches
if for one of these runs it is in every answer that is kept and in none that is taken away, and where no answer is
kept it only has to be stored.

## Main results

* `Query.groups_cons`: the first alternative ends where the next marked term stands.
* `Query.mem_pairClauses_iff`: the alternatives with their answers are the runs of terms with their answers.
* `Query.needsAll_iff`: all features are needed for a query without terms, and where no answer of some run is kept.
* `Store.combine_alternatives`: what a query matches, and when all features are loaded for it.
-/

namespace FeatureQuery

/-! ### Runs of terms -/

namespace Query

/-- The first alternative goes on up to the next term that opens one. -/
theorem groups_cons (term : Term) (terms : List Term) :
    groups (term :: terms)
      = (term :: terms.takeWhile fun t => !t.startsGroup)
        :: groups (terms.dropWhile fun t => !t.startsGroup) := by
  induction terms generalizing term with
  | nil => rfl
  | cons next terms ih =>
      have hfirst : opensGroup (next :: terms) = next.startsGroup := rfl
      rw [groups, ih next]
      dsimp only
      rw [hfirst]
      by_cases hopens : next.startsGroup = true
      · rw [if_pos hopens, List.takeWhile_cons_of_neg (by simp [hopens]),
          List.dropWhile_cons_of_neg (by simp [hopens]), ih next]
      · rw [if_neg hopens, List.takeWhile_cons_of_pos (by simp [hopens]),
          List.dropWhile_cons_of_pos (by simp [hopens])]

/-- Some of the terms with their answers are an alternative: a run that starts with the first of all terms or with
one that opens an alternative, in which no other term opens one, and after which none follows or one that does. -/
def IsAlternative (answered : List AnsweredTerm) (clause : AnsweredClause) : Prop :=
  ∃ before first rest after, clause = first :: rest ∧ answered = before ++ first :: (rest ++ after)
    ∧ (before = [] ∨ first.term.startsGroup = true)
    ∧ (∀ a ∈ rest, a.term.startsGroup = false)
    ∧ ∀ a ∈ after.head?, a.term.startsGroup = true

/-- The answered term does not open an alternative. -/
def goesOn (a : AnsweredTerm) : Bool :=
  !a.term.startsGroup

/-- A query without terms has no alternatives. -/
theorem not_isAlternative_nil (clause : AnsweredClause) : ¬ IsAlternative [] clause := by
  rintro ⟨before, first, rest, after, -, hsplit, -⟩
  exact absurd hsplit.symm (by simp)

/-- A run is the first one, or it is a run of what follows the first one. -/
theorem isAlternative_cons_iff {a : AnsweredTerm} {answered : List AnsweredTerm} {clause : AnsweredClause} :
    IsAlternative (a :: answered) clause
      ↔ clause = a :: answered.takeWhile goesOn ∨ IsAlternative (answered.dropWhile goesOn) clause := by
  have hhead : ∀ b ∈ (answered.dropWhile goesOn).head?, b.term.startsGroup = true := by
    intro b hb
    have hnot := List.head?_dropWhile_not goesOn answered
    rw [Option.mem_def.1 hb] at hnot
    simpa [goesOn] using hnot
  constructor
  · rintro ⟨before, first, rest, after, rfl, hsplit, hopens, hrest, hafter⟩
    have hgoesOn : ∀ b ∈ rest, goesOn b = true := fun b hb => by simp [goesOn, hrest b hb]
    cases before with
    | nil =>
        obtain ⟨rfl, rfl⟩ := List.cons.inj hsplit
        refine Or.inl ?_
        rw [List.takeWhile_append_of_pos hgoesOn]
        cases after with
        | nil => rw [List.takeWhile_nil, List.append_nil]
        | cons b after =>
            have hb : goesOn b = false := by simp [goesOn, hafter b rfl]
            rw [List.takeWhile_cons_of_neg (by simp [hb]), List.append_nil]
    | cons b before =>
        rw [List.cons_append, List.cons.injEq] at hsplit
        obtain ⟨rfl, rfl⟩ := hsplit
        have hfirst : first.term.startsGroup = true := hopens.resolve_left (List.cons_ne_nil _ _)
        have hstops : goesOn first = false := by simp [goesOn, hfirst]
        refine Or.inr ⟨before.dropWhile goesOn, first, rest, after, rfl, ?_, Or.inr hfirst, hrest, hafter⟩
        rw [List.dropWhile_append]
        split
        · next hempty =>
            rw [List.isEmpty_iff.1 hempty, List.nil_append, List.dropWhile_cons_of_neg (by simp [hstops])]
        · rfl
  · rintro (rfl | ⟨before, first, rest, after, rfl, hsplit, hopens, hrest, hafter⟩)
    · refine ⟨[], a, answered.takeWhile goesOn, answered.dropWhile goesOn, rfl, ?_, Or.inl rfl, ?_, hhead⟩
      · rw [List.takeWhile_append_dropWhile, List.nil_append]
      · intro b hb
        have hgoesOn := List.all_eq_true.1 (List.all_takeWhile (p := goesOn) (l := answered)) b hb
        simpa [goesOn] using hgoesOn
    · refine ⟨a :: answered.takeWhile goesOn ++ before, first, rest, after, rfl, ?_, Or.inr ?_, hrest, hafter⟩
      · rw [List.append_assoc, ← hsplit, List.cons_append, List.takeWhile_append_dropWhile]
      · rcases hopens with rfl | hfirst
        · exact hhead first (by rw [hsplit]; rfl)
        · exact hfirst

/-! ### Answers in their places -/

/-- Terms are paired with the answers that stand in their places. -/
theorem pair_append (clause : AnsweredClause) (others : List Resolved) :
    AnsweredClause.pair (clause.map (·.term)) (clause.map (·.answer) ++ others) = clause := by
  induction clause with
  | nil => rfl
  | cons a clause ih => rw [List.map_cons, List.map_cons, List.cons_append, AnsweredClause.pair, ih]

/-- The first alternative takes the first answers, and the others take those that follow. -/
theorem pairClauses_groups_cons (a : AnsweredTerm) (answered : List AnsweredTerm) :
    pairClauses (groups ((a :: answered).map (·.term))) ((a :: answered).map (·.answer))
      = (a :: answered.takeWhile goesOn)
        :: pairClauses (groups ((answered.dropWhile goesOn).map (·.term)))
            ((answered.dropWhile goesOn).map (·.answer)) := by
  have hterms : ((answered.map (·.term)).takeWhile fun t => !t.startsGroup)
      = (answered.takeWhile goesOn).map (·.term) := List.takeWhile_map
  have hothers : ((answered.map (·.term)).dropWhile fun t => !t.startsGroup)
      = (answered.dropWhile goesOn).map (·.term) := List.dropWhile_map
  have hanswers : (a :: answered).map (·.answer)
      = (a :: answered.takeWhile goesOn).map (·.answer) ++ (answered.dropWhile goesOn).map (·.answer) := by
    rw [← List.map_append, List.cons_append, List.takeWhile_append_dropWhile]
  rw [List.map_cons, groups_cons, hterms, hothers, ← List.map_cons, hanswers, pairClauses, pair_append,
    List.drop_left' (by rw [List.length_map, List.length_map])]

/-- **Alternatives.** The alternatives with their answers are the runs of terms with their answers. -/
theorem mem_pairClauses_iff {answered : List AnsweredTerm} {clause : AnsweredClause} :
    clause ∈ pairClauses (groups (answered.map (·.term))) (answered.map (·.answer))
      ↔ IsAlternative answered clause := by
  -- The recursion goes on behind the first run, so the induction is on the number of terms.
  induction hlength : answered.length using Nat.strongRecOn generalizing answered with
  | ind n ih =>
      cases answered with
      | nil => exact iff_of_false List.not_mem_nil (not_isAlternative_nil clause)
      | cons a answered =>
          have hlt : (answered.dropWhile goesOn).length < n := by
            have hle := (List.dropWhile_sublist goesOn (l := answered)).length_le
            rw [List.length_cons] at hlength
            omega
          rw [pairClauses_groups_cons, List.mem_cons, ih _ hlt rfl, isAlternative_cons_iff]

end Query

/-! ### Matches -/

/-- An alternative matches what is in every answer that is kept and in none that is taken away. Without one that is
kept, it matches only what is among all features. -/
theorem AnsweredClause.mem_ids_iff_answers {all : IdSet} {clause : AnsweredClause} {id : Int64} :
    id ∈ clause.ids all
      ↔ (∀ a ∈ clause, a.isExcluded = false → id ∈ a.answer.ids)
        ∧ (∀ a ∈ clause, a.isExcluded = true → id ∉ a.answer.ids)
        ∧ ((∀ a ∈ clause, a.isExcluded = true) → id ∈ all) := by
  have hexcluded : (∀ s ∈ clause.excluded, id ∉ s) ↔ ∀ a ∈ clause, a.isExcluded = true → id ∉ a.answer.ids := by
    rw [excluded, List.forall_mem_map]
    simp only [List.mem_filter, and_imp]
  have hincluded : id ∈ intersection all clause.included
      ↔ (∀ a ∈ clause, a.isExcluded = false → id ∈ a.answer.ids)
        ∧ ((∀ a ∈ clause, a.isExcluded = true) → id ∈ all) := by
    have hmem : ∀ s, s ∈ clause.included ↔ ∃ a ∈ clause, a.isExcluded = false ∧ a.answer.ids = s := by
      intro s
      simp only [included, List.mem_map, List.mem_filter, Bool.not_eq_true', and_assoc]
    cases hsets : clause.included with
    | nil =>
        have hnone : ∀ a ∈ clause, a.isExcluded = true := by
          intro a ha
          by_contra hkept
          have hin := (hmem a.answer.ids).2 ⟨a, ha, by simpa using hkept, rfl⟩
          rw [hsets] at hin
          exact absurd hin List.not_mem_nil
        constructor
        · intro hall
          exact ⟨fun a ha hkept => absurd (hnone a ha) (by simp [hkept]), fun _ => hall⟩
        · rintro ⟨-, hall⟩
          exact hall hnone
    | cons s sets =>
        obtain ⟨a, ha, hkept, -⟩ := (hmem s).1 (hsets ▸ List.mem_cons_self)
        rw [mem_intersection_cons, ← hsets]
        constructor
        · intro hin
          refine ⟨fun b hb hkept => hin _ ((hmem _).2 ⟨b, hb, hkept, rfl⟩), fun hnone => ?_⟩
          exact absurd (hnone a ha) (by simp [hkept])
        · rintro ⟨hin, -⟩ t ht
          obtain ⟨b, hb, hkept, rfl⟩ := (hmem t).1 ht
          exact hin b hb hkept
  rw [mem_ids, hexcluded, hincluded, and_assoc, and_comm (a := (∀ a ∈ clause, a.isExcluded = true) → id ∈ all)]

/-- The answer to a term is taken away if the term is negated and the answer does not say so itself. -/
theorem AnsweredTerm.isExcluded_iff {a : AnsweredTerm} :
    a.isExcluded = true ↔ a.term.negated = true ∧ a.answer.complemented = false := by
  rw [isExcluded, Bool.and_eq_true, Bool.not_eq_true']

namespace Query

/-- Given the answers to the terms, all features are needed: there are no terms, or an alternative has only answers
that are taken away. -/
def LacksStart (answered : List AnsweredTerm) : Prop :=
  answered = [] ∨ ∃ clause, IsAlternative answered clause
    ∧ ∀ a ∈ clause, a.term.negated = true ∧ a.answer.complemented = false

/-- A query is empty exactly if it is made of no terms. -/
theorem isEmpty_ofTerms_iff {terms : List Term} : (ofTerms terms).isEmpty = true ↔ terms = [] := by
  cases terms with
  | nil => exact iff_of_true rfl rfl
  | cons term terms =>
      rw [isEmpty, ofTerms, groups_cons]
      exact iff_of_false Bool.false_ne_true (List.cons_ne_nil _ _)

/-- All features are needed exactly if there is no answer to start from. -/
theorem needsAll_iff {answered : List AnsweredTerm} :
    (ofTerms (answered.map (·.term))).needsAll (answered.map (·.answer)) = true ↔ LacksStart answered := by
  have hincluded : ∀ clause : AnsweredClause, clause.included.isEmpty = true
      ↔ ∀ a ∈ clause, a.term.negated = true ∧ a.answer.complemented = false := by
    intro clause
    rw [List.isEmpty_iff, AnsweredClause.included, List.map_eq_nil_iff, List.filter_eq_nil_iff]
    simp only [Bool.not_eq_true', Bool.not_eq_false, AnsweredTerm.isExcluded_iff]
  rw [needsAll, Bool.or_eq_true, isEmpty_ofTerms_iff, List.map_eq_nil_iff, List.any_eq_true]
  refine or_congr_right (exists_congr fun clause => and_congr ?_ (hincluded clause))
  exact mem_pairClauses_iff

end Query

/-- An alternative matches an id. -/
structure AnsweredClause.Matches (store : Store) (clause : AnsweredClause) (id : Int64) : Prop where
  /-- It is in the answer to every term that is not negated or whose answer is already that to the negated term. -/
  kept : ∀ a ∈ clause, a.term.negated = false ∨ a.answer.complemented = true → id ∈ a.answer.ids
  /-- It is not in the answer to any other term. -/
  takenAway : ∀ a ∈ clause, a.term.negated = true ∧ a.answer.complemented = false → id ∉ a.answer.ids
  /-- It is that of a feature, if all terms are such others. -/
  stored : (∀ a ∈ clause, a.term.negated = true ∧ a.answer.complemented = false) →
    ∃ feature ∈ store.features, feature.id = id

namespace Store

variable {store : Store}

/-- The ids of a clause are those that match it. -/
theorem matches_iff (online : .feature ∉ store.offline) {clause : AnsweredClause} {id : Int64} :
    id ∈ clause.ids store.allIds.value ↔ clause.Matches store id := by
  have hplain : ∀ a : AnsweredTerm,
      a.isExcluded = false ↔ a.term.negated = false ∨ a.answer.complemented = true := by
    intro a
    rw [AnsweredTerm.isExcluded]
    cases a.term.negated <;> cases a.answer.complemented <;> decide
  rw [AnsweredClause.mem_ids_iff_answers, mem_allIds online]
  simp only [hplain, AnsweredTerm.isExcluded_iff]
  constructor
  · rintro ⟨hkept, htaken, hstored⟩
    exact ⟨hkept, htaken, hstored⟩
  · intro h
    exact ⟨h.kept, h.takenAway, h.stored⟩

/-- A store that cannot load its features warns if they are needed. -/
theorem warnings_combine_of_offline (offline : .feature ∈ store.offline) (query : Query) (answers : List Resolved) :
    (store.combine query answers).warnings ≠ [] ↔ query.needsAll answers = true := by
  have hwarned : store.allIds.warnings ≠ [] := by
    rw [allIds, fetchIds_offline rfl offline]
    exact List.cons_ne_nil _ _
  rw [combine]
  split
  · next hneeds => exact iff_of_true (by rwa [Noted.warnings_map]) hneeds
  · next hneeds => exact iff_of_false (fun h => h rfl) hneeds

/-- **Combination.** Of terms with one answer each, a query matches all features if there are no terms, and
otherwise what one of the alternatives matches. All features are loaded exactly if there is no answer to start
from, so that a store that cannot load them warns; where they are not, all stores give the same result. -/
theorem combine_alternatives (online : .feature ∉ store.offline) {terms : List Term} {answers : List Resolved}
    (hlength : answers.length = terms.length) :
    (∀ id, id ∈ (store.combine (.ofTerms terms) answers).value
        ↔ (terms = [] ∧ ∃ feature ∈ store.features, feature.id = id)
          ∨ ∃ clause, Query.IsAlternative (List.zipWith .mk terms answers) clause ∧ clause.Matches store id)
      ∧ ((Query.ofTerms terms).needsAll answers = true ↔ Query.LacksStart (List.zipWith .mk terms answers))
      ∧ (∀ other : Store, .feature ∈ other.offline →
          ((other.combine (.ofTerms terms) answers).warnings ≠ []
            ↔ Query.LacksStart (List.zipWith .mk terms answers)))
      ∧ (¬ Query.LacksStart (List.zipWith .mk terms answers) →
          ∀ other : Store, other.combine (.ofTerms terms) answers = store.combine (.ofTerms terms) answers) := by
  obtain ⟨answered, rfl, rfl⟩ : ∃ answered : List AnsweredTerm,
      terms = answered.map (·.term) ∧ answers = answered.map (·.answer) := by
    refine ⟨(terms.zip answers).map fun pair => ⟨pair.1, pair.2⟩, ?_, ?_⟩
    · rw [List.map_map]
      exact (List.map_fst_zip (Nat.le_of_eq hlength.symm)).symm
    · rw [List.map_map]
      exact (List.map_snd_zip (Nat.le_of_eq hlength)).symm
  have hzip : List.zipWith AnsweredTerm.mk (answered.map (·.term)) (answered.map (·.answer)) = answered := by
    rw [List.zipWith_map, List.zipWith_self]
    exact List.map_id _
  rw [hzip, List.map_eq_nil_iff]
  refine ⟨fun id => ?_, Query.needsAll_iff, fun other hoffline => ?_, fun hstart other => ?_⟩
  · rw [value_combine, Query.combineFrom]
    by_cases hempty : answered = []
    · subst hempty
      rw [List.map_nil, List.map_nil, if_pos (Query.isEmpty_ofTerms_iff.2 rfl), mem_allIds online]
      constructor
      · exact fun hstored => Or.inl ⟨rfl, hstored⟩
      · rintro (⟨-, hstored⟩ | ⟨clause, hclause, -⟩)
        · exact hstored
        · exact absurd hclause (Query.not_isAlternative_nil clause)
    · have hterms : ¬ (Query.ofTerms (answered.map (·.term))).isEmpty = true := by
        rwa [Query.isEmpty_ofTerms_iff, List.map_eq_nil_iff]
      rw [if_neg hterms, Query.mem_matchesOf]
      simp only [hempty, false_and, false_or, matches_iff online]
      exact exists_congr fun clause => and_congr_left fun _ => Query.mem_pairClauses_iff
  · rw [warnings_combine_of_offline hoffline, Query.needsAll_iff]
  · have hneeds : ¬ (Query.ofTerms (answered.map (·.term))).needsAll (answered.map (·.answer)) = true :=
      fun h => hstart (Query.needsAll_iff.1 h)
    rw [combine, combine, if_neg hneeds, if_neg hneeds]

/-- Two features. -/
def ofTwo : Store :=
  ofRecords [.ownedBy "ann" 3 false, .ownedBy "bob" 4 false] [] [] []

/-- The terms of `-a b OR -c OR -d`. -/
def negatedTerms : List Term :=
  [⟨true, false, .text "a"⟩, ⟨false, false, .text "b"⟩, ⟨true, true, .text "c"⟩, ⟨true, true, .text "d"⟩]

/-- Answers to these terms, of which the last one is already that to the negated term. -/
def negatedAnswers : List Resolved :=
  [⟨.ofList [1], false⟩, ⟨.ofList [1, 2], false⟩, ⟨.ofList [1, 2, 3], false⟩, ⟨.ofList [5], true⟩]

/-- The second alternative has no answer to start from, so it matches the feature that is not in its answer. -/
theorem combine_alternatives_negated :
    .feature ∉ ofTwo.offline ∧ negatedAnswers.length = negatedTerms.length
      ∧ Query.IsAlternative (List.zipWith .mk negatedTerms negatedAnswers)
          [⟨⟨true, true, .text "c"⟩, ⟨.ofList [1, 2, 3], false⟩⟩]
      ∧ 4 ∈ (ofTwo.combine (.ofTerms negatedTerms) negatedAnswers).value
      ∧ (Query.ofTerms negatedTerms).needsAll negatedAnswers = true := by
  have online : .feature ∉ ofTwo.offline := online_ofRecords _ _ _ _ .feature
  obtain ⟨hmem, hneeds, -⟩ := combine_alternatives online (show negatedAnswers.length = negatedTerms.length from rfl)
  have hclause : Query.IsAlternative (List.zipWith .mk negatedTerms negatedAnswers)
      [⟨⟨true, true, .text "c"⟩, ⟨.ofList [1, 2, 3], false⟩⟩] :=
    ⟨[⟨⟨true, false, .text "a"⟩, ⟨.ofList [1], false⟩⟩, ⟨⟨false, false, .text "b"⟩, ⟨.ofList [1, 2], false⟩⟩], _, [],
      [⟨⟨true, true, .text "d"⟩, ⟨.ofList [5], true⟩⟩], rfl, rfl, Or.inr rfl, fun a ha => absurd ha List.not_mem_nil,
      fun a ha => Option.some.inj ha ▸ rfl⟩
  refine ⟨online, rfl, hclause, (hmem 4).2 (Or.inr ⟨_, hclause, ⟨?_, ?_, ?_⟩⟩), hneeds.2 (Or.inr ⟨_, hclause, ?_⟩)⟩
  · simp
  · simp only [List.forall_mem_singleton]
    decide +kernel
  · exact fun _ => ⟨.ownedBy "bob" 4 false, by decide +kernel, rfl⟩
  · simp

end Store

end FeatureQuery
