import FeatureQuery.Term.Lexer

/-!
# Queries

A query is a list of alternatives, each a list of terms that must all hold. There are no brackets: a term
marked with `OR` opens a new alternative, and every other term belongs to the one before it.

## Main results

* `groups_flatten`: grouping keeps all terms in order.
* `ne_nil_of_mem_groups`: no alternative is empty.
-/

namespace FeatureQuery

/-- Terms that must all hold. -/
abbrev Clause := List Term

/-- Every term of the clause is negated. -/
def Clause.allNegated (clause : Clause) : Bool :=
  clause.all (·.negated)

/-- Alternatives, one of which must hold. -/
structure Query where
  clauses : List Clause
  deriving DecidableEq

namespace Query

/-- Whether the first of some terms opens an alternative; if there is none, one would. -/
def opensGroup : List Term → Bool
  | [] => true
  | term :: _ => term.startsGroup

/-- The alternatives of a sequence of terms. -/
def groups : List Term → List Clause
  | [] => []
  | term :: terms =>
    match groups terms with
    | [] => [[term]]
    | clause :: clauses =>
      if opensGroup terms then [term] :: clause :: clauses else (term :: clause) :: clauses

/-- No term is lost or moved by grouping. -/
theorem groups_flatten (terms : List Term) : (groups terms).flatten = terms := by
  induction terms with
  | nil => rfl
  | cons term terms ih =>
    unfold groups
    split
    · simp_all
    · split <;> simp_all

/-- Every group has a term. -/
theorem ne_nil_of_mem_groups {terms : List Term} {clause : Clause} (h : clause ∈ groups terms) :
    clause ≠ [] := by
  induction terms generalizing clause with
  | nil => simp [groups] at h
  | cons term terms ih =>
    unfold groups at h
    split at h
    · simp_all
    · split at h
      · rcases List.mem_cons.1 h with rfl | h
        · simp
        · exact ih (by simp_all)
      · rcases List.mem_cons.1 h with rfl | h
        · simp
        · exact ih (by simp_all)

/-- The query of a sequence of terms. -/
def ofTerms (terms : List Term) : Query :=
  ⟨groups terms⟩

/-- The terms of all alternatives, in order. -/
def terms (query : Query) : List Term :=
  query.clauses.flatten

/-- The query has no terms. -/
def isEmpty (query : Query) : Bool :=
  query.clauses.isEmpty

/-- The terms of a query are those it was made of. -/
theorem terms_ofTerms (terms : List Term) : (ofTerms terms).terms = terms :=
  groups_flatten terms

/-- Reads a query. A blank is added at its end, so that the last term counts. -/
def read (text : String) : Query :=
  ofTerms (Term.tokens (text.toList ++ [' ']))

end Query

end FeatureQuery
