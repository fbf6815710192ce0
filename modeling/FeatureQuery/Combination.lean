import FeatureQuery.Lookup
import FeatureQuery.Query

/-!
# Combination

The answer to a query from the answers to its terms: within an alternative they are intersected, and the
matches of negated terms are taken away; the alternatives are united. An alternative of negated terms only
starts from all features, which are loaded at most once, and only if some alternative needs them.

## Main results

* `AnsweredClause.mem_ids`, `Query.mem_matchesOf`: what an alternative and a query match.
* `Query.combineFrom_congr`: without need for the set of all features, it makes no difference what it is.
-/

namespace FeatureQuery

/-! ### Alternatives -/

/-- A term with its answer. -/
structure AnsweredTerm where
  term : Term
  answer : Resolved

/-- The matches of the answer are to be taken away. -/
def AnsweredTerm.isExcluded (answered : AnsweredTerm) : Bool :=
  answered.term.negated && !answered.answer.complemented

/-- The terms of an alternative with their answers. -/
abbrev AnsweredClause := List AnsweredTerm

/-- The members of all of some sets; all features if there is no set. -/
def intersection (all : IdSet) : List IdSet → IdSet
  | [] => all
  | ids :: rest => rest.foldl .inter ids

/-- Where there is a set, an id is common to all sets exactly if it is in each of them. -/
theorem mem_intersection_cons {all ids : IdSet} {rest : List IdSet} {x : Int64} :
    x ∈ intersection all (ids :: rest) ↔ ∀ s ∈ ids :: rest, x ∈ s := by
  have key : ∀ (sets : List IdSet) (hits : IdSet),
      x ∈ sets.foldl .inter hits ↔ x ∈ hits ∧ ∀ s ∈ sets, x ∈ s := by
    intro sets
    induction sets with
    | nil => simp
    | cons s sets ih =>
      intro hits
      rw [List.foldl_cons, ih, IdSet.mem_inter, List.forall_mem_cons, and_assoc]
  rw [intersection, key, List.forall_mem_cons]

/-- Where there is a set, the universe makes no difference. -/
theorem intersection_of_ne_nil {sets : List IdSet} (all all' : IdSet) (h : sets ≠ []) :
    intersection all sets = intersection all' sets := by
  cases sets with
  | nil => exact absurd rfl h
  | cons => rfl

namespace AnsweredClause

/-- The terms with the answers in their order. A term without an answer matches nothing. -/
def pair : Clause → List Resolved → AnsweredClause
  | [], _ => []
  | term :: terms, [] => ⟨term, .empty⟩ :: pair terms []
  | term :: terms, answer :: answers => ⟨term, answer⟩ :: pair terms answers

/-- The sets that all matches are in. -/
def included (clause : AnsweredClause) : List IdSet :=
  (clause.filter fun answered => !answered.isExcluded).map (·.answer.ids)

/-- The sets that no match is in. -/
def excluded (clause : AnsweredClause) : List IdSet :=
  (clause.filter (·.isExcluded)).map (·.answer.ids)

/-- The matches of an alternative, given all features. -/
def ids (all : IdSet) (clause : AnsweredClause) : IdSet :=
  clause.excluded.foldl .diff (intersection all clause.included)

/-- The ids of a clause are in all included sets, and in none of the excluded ones. -/
theorem mem_ids {all : IdSet} {clause : AnsweredClause} {x : Int64} :
    x ∈ clause.ids all
      ↔ x ∈ intersection all clause.included ∧ ∀ s ∈ clause.excluded, x ∉ s := by
  have key : ∀ (sets : List IdSet) (hits : IdSet),
      x ∈ sets.foldl .diff hits ↔ x ∈ hits ∧ ∀ s ∈ sets, x ∉ s := by
    intro sets
    induction sets with
    | nil => simp
    | cons s sets ih =>
      intro hits
      rw [List.foldl_cons, ih, IdSet.mem_diff, List.forall_mem_cons, and_assoc]
  exact key _ _

end AnsweredClause

/-! ### Queries -/

namespace Query

/-- The alternatives with the answers to their terms, which stand in one list. -/
def pairClauses : List Clause → List Resolved → List AnsweredClause
  | [], _ => []
  | clause :: clauses, answers =>
    .pair clause answers :: pairClauses clauses (answers.drop clause.length)

/-- The matches of some alternatives, given all features. -/
def matchesOf (all : IdSet) (clauses : List AnsweredClause) : IdSet :=
  clauses.foldr (fun clause => (clause.ids all).union) .empty

/-- The matches are the ids of the clauses. -/
theorem mem_matchesOf {all : IdSet} {clauses : List AnsweredClause} {x : Int64} :
    x ∈ matchesOf all clauses ↔ ∃ clause ∈ clauses, x ∈ clause.ids all := by
  induction clauses with
  | nil => simp [matchesOf]
  | cons clause clauses ih =>
    rw [matchesOf, List.foldr_cons, IdSet.mem_union]
    simp only [List.mem_cons, exists_eq_or_imp]
    exact or_congr_right ih

/-- The matches of a query, given all features and the answers to its terms. -/
def combineFrom (query : Query) (answers : List Resolved) (all : IdSet) : IdSet :=
  if query.isEmpty then all else matchesOf all (pairClauses query.clauses answers)

/-- The matches cannot be found without the set of all features. -/
def needsAll (query : Query) (answers : List Resolved) : Bool :=
  query.isEmpty || (pairClauses query.clauses answers).any fun clause => clause.included.isEmpty

/-- The universe makes no difference to a query that does not need it. -/
theorem combineFrom_congr {query : Query} {answers : List Resolved} (all all' : IdSet)
    (h : query.needsAll answers = false) :
    query.combineFrom answers all = query.combineFrom answers all' := by
  simp only [needsAll, Bool.or_eq_false_iff, List.any_eq_false, List.isEmpty_iff] at h
  have hids : ∀ clause ∈ pairClauses query.clauses answers, clause.ids all = clause.ids all' :=
    fun clause hmem => by
      rw [AnsweredClause.ids, intersection_of_ne_nil all all' (h.2 clause hmem), AnsweredClause.ids]
  refine IdSet.ext_mem fun x => ?_
  simp only [combineFrom, h.1, Bool.false_eq_true, if_false, mem_matchesOf]
  constructor
  · rintro ⟨clause, hmem, hx⟩
    exact ⟨clause, hmem, hids clause hmem ▸ hx⟩
  · rintro ⟨clause, hmem, hx⟩
    exact ⟨clause, hmem, hids clause hmem ▸ hx⟩

end Query

namespace Store

/-- All features. If they cannot be loaded there are none. -/
def allIds (store : Store) : Noted IdSet :=
  match store.fetchIds (.all .feature) with
  | .ok ids => pure (.ofList ids)
  | .error cause => .warn (.universeFailed backendName cause) .empty

/-- The matches of a query, given the answers to its terms. -/
def combine (store : Store) (query : Query) (answers : List Resolved) : Noted IdSet :=
  if query.needsAll answers then query.combineFrom answers <$> store.allIds
  else pure (query.combineFrom answers .empty)

end Store

end FeatureQuery
