import FeatureQuery.IdSet
import FeatureQuery.Plan
import FeatureQuery.Store
import FeatureQuery.Warning

/-!
# Lookups

The answer to a term is a set of features, with a mark if the term's negation is already in it. It is
known at once or comes from a lookup, which may also end without an answer. Lookups of several terms run
side by side; their answers are joined in the order of the terms.

## Main results

* `Store.lookup_eq_pure`: a lookup whose queries are all answered notes nothing.
* `Lookup.length_slots`: completing lookups keeps one slot for each of them.
-/

namespace FeatureQuery

/-- The answer to a term. -/
structure Resolved where
  ids : IdSet
  /-- The term's negation is already applied. -/
  complemented : Bool
  deriving DecidableEq

/-- The answer of a term that matches nothing. -/
def Resolved.empty : Resolved := ⟨.empty, false⟩

/-- How a lookup ends. -/
inductive Outcome where
  | answered (resolved : Resolved)
  /-- It ended without an answer. -/
  | crashed
  deriving DecidableEq

/-- The answer to a term, now or later. -/
inductive Lookup where
  /-- Known without asking the store. -/
  | ready (resolved : Resolved)
  /-- Has to be run. -/
  | pending (run : Noted Outcome)

/-! ### Asking the store -/

namespace Store

/-- All features that some of the queries select; the first failure is the failure of all. -/
def fetchAll (store : Store) : List StoreQuery → Except StoreError IdSet
  | [] => .ok .empty
  | query :: queries => do
    let ids ← store.fetchIds query
    let rest ← store.fetchAll queries
    return (IdSet.ofList ids).union rest

/-- The answer to a plan. A term whose lookup fails matches nothing. -/
def lookup (store : Store) (plan : Plan) (label : String) : Noted Resolved :=
  match store.fetchAll plan.queries with
  | .ok ids => pure ⟨ids, plan.complemented⟩
  | .error cause => .warn (.lookupFailed backendName label cause) .empty

/-- A plan whose queries are answered gives all ids that were found, without a warning. -/
theorem lookup_eq_pure {store : Store} {plan : Plan} {ids : IdSet} (label : String)
    (h : store.fetchAll plan.queries = .ok ids) :
    store.lookup plan label = pure ⟨ids, plan.complemented⟩ := by
  simp [lookup, h]

end Store

namespace Lookup

/-- A lookup that the store answers, or fails to. -/
def ofStore (store : Store) (plan : Plan) (label : String) : Lookup :=
  .pending (Outcome.answered <$> store.lookup plan label)

/-! ### Joining -/

/-- The answer that is known without running the lookup. -/
def known? : Lookup → Option Resolved
  | ready resolved => some resolved
  | pending _ => none

/-- Runs one of the lookups and puts its answer into its slot. -/
def complete (lookups : List Lookup) (slots : List (Option Resolved)) (i : Nat) :
    Noted (List (Option Resolved)) := do
  match lookups[i]? with
  | some (.pending run) =>
    match ← run with
    | .answered resolved => return slots.set i (some resolved)
    | .crashed => .warn .lookupCrashed slots
  | _ => return slots

/-- Waiting fills slots and adds none. -/
theorem length_slots (lookups : List Lookup) (slots : List (Option Resolved)) (i : Nat) :
    (complete lookups slots i).value.length = slots.length := by
  unfold complete
  split
  · rw [Noted.value_bind]
    split <;> simp [Noted.warn]
  · rfl

/-- The answers to lookups that complete in some order. One that does not answer matches nothing. -/
def joinIn (order : List Nat) (lookups : List Lookup) : Noted (List Resolved) := do
  let slots ← order.foldlM (complete lookups) (lookups.map known?)
  return slots.map fun slot => slot.getD .empty

/-- The answers to lookups, in their order. -/
def join (lookups : List Lookup) : Noted (List Resolved) :=
  joinIn (List.range lookups.length) lookups

/-- How a lookup is shown in diagnostics before it is run. -/
def diagnostic : Lookup → String
  | pending _ => "Pending"
  | ready resolved =>
    "Ready(Resolved \x7b ids: \x7b" ++ ", ".intercalate (resolved.ids.toList.map Number.showInt64)
      ++ "\x7d, complemented: " ++ toString resolved.complemented ++ " \x7d)"

end Lookup

end FeatureQuery
