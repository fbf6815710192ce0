import FeatureQuery.Combination
import Mathlib.Data.List.Perm.Basic

/-!
# Joining and combining answers

Lookups answer in any order, and their answers are collected into slots, one for each term. Once every lookup
has been completed the slots hold the answers in the order of the terms, whatever order they came in, so
each term of a query is combined with its own answer. A lookup that ends without an answer leaves its own
slot empty and is warned of once.

## Main results

* `Lookup.Collected.complete`: completing one more lookup puts its answer into its slot.
* `Lookup.value_joinIn`: in whatever order all lookups complete, the answers are those of the lookups.
* `Lookup.warnings_joinIn`: what is warned of when they complete in some order.
* `Lookup.join_eq_joinIn_pendingPlaces`: joining takes one of these orders.
* `Lookup.joinIn_in_any_order`: the order matters neither to the answers nor to what is warned of.
* `Query.pairClauses_map`: each term of each alternative is paired with its own answer.
* `Store.value_combine`: loading all features only when they are needed makes no difference.
-/

namespace FeatureQuery

/-! ### Values of noted computations -/

namespace Noted

@[simp] theorem value_warn {α : Type} (warning : Warning) (value : α) :
    (warn warning value).value = value := rfl

/-- The values of computations that run one after another. -/
theorem value_mapM {α β : Type} (f : α → Noted β) (items : List α) :
    (items.mapM f).value = items.map fun item => (f item).value := by
  induction items with
  | nil => rfl
  | cons item items ih =>
      rw [List.mapM_cons, value_bind, value_bind, value_pure, ih, List.map_cons]

/-- The warnings of computations that run one after another. -/
theorem warnings_mapM {α β : Type} (f : α → Noted β) (items : List α) :
    (items.mapM f).warnings = items.flatMap fun item => (f item).warnings := by
  induction items with
  | nil => rfl
  | cons item items ih =>
      rw [List.mapM_cons, warnings_bind, warnings_bind, warnings_pure, ih, List.append_nil, List.flatMap_cons]

/-- The value of a fold whose steps note warnings. -/
theorem value_foldlM {σ α : Type} (step : σ → α → Noted σ) (items : List α) (state : σ) :
    (items.foldlM step state).value = items.foldl (fun s item => (step s item).value) state := by
  induction items generalizing state with
  | nil => rfl
  | cons item items ih => rw [List.foldlM_cons, value_bind, ih, List.foldl_cons]

/-- The warnings of a fold whose steps note the same in every state. -/
theorem warnings_foldlM {σ α : Type} {step : σ → α → Noted σ} {notes : α → List Warning}
    (h : ∀ state item, (step state item).warnings = notes item) (items : List α) (state : σ) :
    (items.foldlM step state).warnings = items.flatMap notes := by
  induction items generalizing state with
  | nil => rfl
  | cons item items ih => rw [List.foldlM_cons, warnings_bind, h, ih, List.flatMap_cons]

end Noted

/-! ### Joining -/

namespace Lookup

/-- What a lookup answers, known or not. One that ends without an answer matches nothing. -/
def answer : Lookup → Resolved
  | ready resolved => resolved
  | pending run =>
    match run.value with
    | .answered resolved => resolved
    | .crashed => .empty

/-- The slots after some of the lookups have completed: theirs hold their answers, the others only what was
known from the start. -/
structure Collected (lookups : List Lookup) (done : List Nat) (slots : List (Option Resolved)) : Prop where
  length_eq : slots.length = lookups.length
  slot : ∀ (i : Nat) (lookup : Lookup), lookups[i]? = some lookup →
    ∃ slot, slots[i]? = some slot ∧
      (slot.getD .empty = lookup.answer ∨ (i ∉ done ∧ slot = lookup.known?))

/-- Before any lookup completes there is what is known from the start. -/
theorem collected_known (lookups : List Lookup) : Collected lookups [] (lookups.map known?) where
  length_eq := List.length_map known?
  slot := fun i lookup h =>
    ⟨lookup.known?, by rw [List.getElem?_map, h, Option.map_some], Or.inr ⟨List.not_mem_nil, rfl⟩⟩

/-- What completing a lookup does to the slots. -/
theorem value_complete {lookups : List Lookup} {i : Nat} {lookup : Lookup}
    (h : lookups[i]? = some lookup) (slots : List (Option Resolved)) :
    (complete lookups slots i).value = slots
      ∨ (complete lookups slots i).value = slots.set i (some lookup.answer) := by
  cases lookup with
  | ready resolved => exact Or.inl (by simp [complete, h])
  | pending run =>
      cases hrun : run.value with
      | crashed => exact Or.inl (by simp [complete, h, hrun])
      | answered resolved => exact Or.inr (by simp [complete, h, hrun, answer])

/-- Completing a lookup that is not known from the start and answers fills its slot. -/
theorem getElem?_value_complete {lookups : List Lookup} {i : Nat} {lookup : Lookup}
    {slots : List (Option Resolved)} {slot : Option Resolved} (h : lookups[i]? = some lookup)
    (hslot : slots[i]? = some slot)
    (hpartial : slot.getD .empty = lookup.answer ∨ slot = lookup.known?) :
    ∃ slot', (complete lookups slots i).value[i]? = some slot' ∧ slot'.getD .empty = lookup.answer := by
  have hlt : i < slots.length := (List.getElem?_eq_some_iff.1 hslot).1
  cases lookup with
  | ready resolved =>
      refine ⟨slot, by simpa [complete, h] using hslot, ?_⟩
      rcases hpartial with hanswer | hknown
      · exact hanswer
      · rw [hknown]
        rfl
  | pending run =>
      cases hrun : run.value with
      | crashed =>
          refine ⟨slot, by simpa [complete, h, hrun] using hslot, ?_⟩
          rcases hpartial with hanswer | hknown
          · exact hanswer
          · rw [hknown, answer, hrun]
            rfl
      | answered resolved =>
          refine ⟨some resolved, ?_, ?_⟩
          · simp [complete, h, hrun, hlt]
          · rw [answer, hrun]
            rfl

/-- **Step.** Completing one more lookup puts its answer into its slot and leaves the others alone. -/
theorem Collected.complete {lookups : List Lookup} {done : List Nat} {slots : List (Option Resolved)}
    (hslots : Collected lookups done slots) (i : Nat) :
    Collected lookups (done ++ [i]) (complete lookups slots i).value where
  length_eq := (length_slots lookups slots i).trans hslots.length_eq
  slot := by
    intro j lookup hj
    obtain ⟨slot, hslot, hstate⟩ := hslots.slot j lookup hj
    by_cases hji : j = i
    · subst hji
      obtain ⟨slot', hslot', hanswer⟩ :=
        getElem?_value_complete hj hslot (hstate.imp_right And.right)
      exact ⟨slot', hslot', Or.inl hanswer⟩
    · have hkept : (Lookup.complete lookups slots i).value[j]? = slots[j]? := by
        cases hi : lookups[i]? with
        | none => simp [Lookup.complete, hi]
        | some other =>
            rcases value_complete hi slots with heq | heq
            · rw [heq]
            · rw [heq, List.getElem?_set_ne (Ne.symm hji)]
      refine ⟨slot, hkept.trans hslot, hstate.imp_right fun ⟨hnot, hknown⟩ => ⟨?_, hknown⟩⟩
      rw [List.mem_append, List.mem_singleton]
      exact fun hmem => hmem.elim hnot hji

/-- **Run.** Completing lookups one after another puts their answers into their slots. -/
theorem Collected.foldl {lookups : List Lookup} {done : List Nat} {slots : List (Option Resolved)}
    (hslots : Collected lookups done slots) (order : List Nat) :
    Collected lookups (done ++ order)
      (order.foldl (fun s i => (Lookup.complete lookups s i).value) slots) := by
  induction order generalizing done slots with
  | nil => rwa [List.append_nil]
  | cons i order ih =>
      have hrest := ih (hslots.complete i)
      rwa [List.append_assoc, List.singleton_append] at hrest

/-- It is not known without running the lookup. -/
def isPending : Lookup → Bool
  | ready _ => false
  | pending _ => true

/-- The answer of a lookup that does not wait is the one it came with. -/
theorem answer_eq_of_known {lookup : Lookup} (h : lookup.isPending = false) :
    lookup.known?.getD .empty = lookup.answer := by
  cases lookup with
  | ready resolved => rfl
  | pending run => exact absurd h Bool.true_eq_false.mp

/-- **Joining.** In whatever order the lookups that have to be run complete, the answers are those of the
lookups. -/
theorem value_joinIn {order : List Nat} {lookups : List Lookup}
    (h : ∀ (i : Nat) (lookup : Lookup), lookups[i]? = some lookup → lookup.isPending → i ∈ order) :
    (joinIn order lookups).value = lookups.map answer := by
  have hslots := (collected_known lookups).foldl order
  rw [List.nil_append, ← Noted.value_foldlM] at hslots
  have hvalue : (joinIn order lookups).value
      = (order.foldlM (Lookup.complete lookups) (lookups.map known?)).value.map
          fun slot => slot.getD .empty := rfl
  rw [hvalue]
  refine List.ext_getElem? fun i => ?_
  rw [List.getElem?_map, List.getElem?_map]
  cases hi : lookups[i]? with
  | none =>
      have hlen := List.getElem?_eq_none_iff.1 hi
      rw [← hslots.length_eq] at hlen
      rw [List.getElem?_eq_none_iff.2 hlen]
      rfl
  | some lookup =>
      obtain ⟨slot, hslot, hstate⟩ := hslots.slot i lookup hi
      rw [hslot, Option.map_some, Option.map_some]
      rcases hstate with hanswer | ⟨hundone, hknown⟩
      · exact congrArg some hanswer
      · have hready : lookup.isPending = false := Bool.eq_false_iff.2 fun hp => hundone (h i lookup hi hp)
        rw [hknown, answer_eq_of_known hready]

/-- Joining lookups returns their answers in order. -/
theorem value_join (lookups : List Lookup) : (join lookups).value = lookups.map answer :=
  value_joinIn fun _ _ hi _ => List.mem_range.2 (List.getElem?_eq_some_iff.1 hi).1

/-! ### Warnings of a join -/

/-- The lookup ends without an answer. -/
def crashes : Lookup → Bool
  | ready _ => false
  | pending run => run.value = .crashed

/-- What is noted while the lookup is run. -/
def ownWarnings : Lookup → List Warning
  | ready _ => []
  | pending run => run.warnings

/-- What is noted when the lookup completes: what it noted itself, and that it did not answer. -/
def notes (lookup : Lookup) : List Warning :=
  lookup.ownWarnings ++ if lookup.crashes then [.lookupCrashed] else []

/-- A lookup that does not wait notes nothing. -/
theorem notes_eq_nil {lookup : Lookup} (h : lookup.isPending = false) : lookup.notes = [] := by
  cases lookup with
  | ready resolved => rfl
  | pending run => exact absurd h Bool.true_eq_false.mp

/-- The places of the lookups that have to be run. -/
def pendingPlaces (lookups : List Lookup) : List Nat :=
  (List.range lookups.length).filter fun i => lookups[i]?.any isPending

/-- A lookup that waits has its place among the pending ones. -/
theorem mem_pendingPlaces {lookups : List Lookup} {i : Nat} {lookup : Lookup}
    (h : lookups[i]? = some lookup) (hpending : lookup.isPending) : i ∈ pendingPlaces lookups := by
  have hlt := (List.getElem?_eq_some_iff.1 h).1
  rw [pendingPlaces, List.mem_filter, h]
  exact ⟨List.mem_range.2 hlt, hpending⟩

/-- What completing a lookup notes does not depend on the lookups that completed before. -/
theorem warnings_complete (lookups : List Lookup) (slots : List (Option Resolved)) (i : Nat) :
    (complete lookups slots i).warnings = (lookups[i]?.map notes).getD [] := by
  cases hi : lookups[i]? with
  | none => simp [complete, hi]
  | some lookup =>
      cases lookup with
      | ready resolved => simp [complete, hi, notes, ownWarnings, crashes]
      | pending run =>
          cases hrun : run.value with
          | answered resolved => simp [complete, hi, hrun, notes, ownWarnings, crashes]
          | crashed => simp [complete, hi, hrun, notes, ownWarnings, crashes, Noted.warn]

/-- Leaving out what contributes nothing. -/
theorem flatMap_filter_of_eq_nil {α β : Type} {p : α → Bool} {f : α → List β}
    (h : ∀ x, p x = false → f x = []) (items : List α) : (items.filter p).flatMap f = items.flatMap f := by
  induction items with
  | nil => rfl
  | cons item items ih =>
      cases hp : p item with
      | false => rw [List.filter_cons_of_neg (by simp [hp]), List.flatMap_cons, h item hp, List.nil_append, ih]
      | true => rw [List.filter_cons_of_pos hp, List.flatMap_cons, List.flatMap_cons, ih]

/-- Completing all lookups in the order of their places. -/
theorem flatMap_range (lookups : List Lookup) :
    ((List.range lookups.length).flatMap fun i => (lookups[i]?.map notes).getD [])
      = lookups.flatMap notes := by
  have hplaces : (List.range lookups.length).map (fun i => lookups[i]?) = lookups.map some := by
    refine List.ext_getElem (by simp) fun i hi _ => ?_
    have hlt : i < lookups.length := by simpa using hi
    simp [hlt]
  calc ((List.range lookups.length).flatMap fun i => (lookups[i]?.map notes).getD [])
      = ((List.range lookups.length).map fun i => lookups[i]?).flatMap fun found =>
          (found.map notes).getD [] := by rw [List.flatMap_map]
    _ = lookups.flatMap notes := by rw [hplaces, List.flatMap_map]; rfl

/-- Completing only those that have to be run. -/
theorem flatMap_pendingPlaces (lookups : List Lookup) :
    ((pendingPlaces lookups).flatMap fun i => (lookups[i]?.map notes).getD []) = lookups.flatMap notes := by
  -- What is known from the start is not run, and notes nothing.
  have hready : ∀ i : Nat, (lookups[i]?.any isPending) = false → (lookups[i]?.map notes).getD [] = [] := by
    intro i h
    cases hi : lookups[i]? with
    | none => rfl
    | some lookup =>
        rw [hi] at h
        exact notes_eq_nil h
  rw [pendingPlaces, flatMap_filter_of_eq_nil hready, flatMap_range]

/-- A join notes what the lookups note, in the order in which they complete. -/
theorem warnings_joinIn (order : List Nat) (lookups : List Lookup) :
    (joinIn order lookups).warnings
      = order.flatMap fun i => (lookups[i]?.map notes).getD [] := by
  rw [joinIn, Noted.warnings_bind, Noted.warnings_foldlM (warnings_complete lookups)]
  exact List.append_nil _

/-- Lookups are joined as if those that have to be run completed in the order of their places. -/
theorem join_eq_joinIn_pendingPlaces (lookups : List Lookup) :
    join lookups = joinIn (pendingPlaces lookups) lookups := by
  have hvalue : (join lookups).value = (joinIn (pendingPlaces lookups) lookups).value := by
    rw [value_join, value_joinIn fun _ _ hi hpending => mem_pendingPlaces hi hpending]
  have hwarnings : (join lookups).warnings = (joinIn (pendingPlaces lookups) lookups).warnings := by
    rw [join, warnings_joinIn, warnings_joinIn, flatMap_range, flatMap_pendingPlaces]
  exact (congrArg₂ Noted.mk hvalue hwarnings :)

/-- Each lookup notes what it notes itself, and each one that does not answer is warned of once. -/
theorem flatMap_notes_perm (lookups : List Lookup) :
    (lookups.flatMap notes).Perm
      (lookups.flatMap ownWarnings ++ List.replicate (lookups.countP crashes) .lookupCrashed) := by
  have hcrashed : (lookups.flatMap fun lookup => if lookup.crashes then [Warning.lookupCrashed] else [])
      = List.replicate (lookups.countP crashes) .lookupCrashed := by
    induction lookups with
    | nil => rfl
    | cons lookup lookups ih =>
        cases h : lookup.crashes <;> simp [List.flatMap_cons, h, ih, List.replicate_succ]
  rw [← hcrashed]
  exact (List.flatMap_append_perm _ _ _).symm

/-- **Joining in any order.** In whatever order the lookups that have to be run complete, the answers are those
of the lookups, each in its place, where one that does not answer matches nothing; exactly one warning for each
such lookup is added to what the lookups note themselves; and whatever stands in another place, with whatever
order of completion, makes no difference to an answer. -/
theorem joinIn_in_any_order {order : List Nat} {lookups : List Lookup}
    (h : order.Perm (pendingPlaces lookups)) :
    ((joinIn order lookups).value.length = lookups.length
        ∧ ∀ (i : Nat) (lookup : Lookup), lookups[i]? = some lookup →
            (joinIn order lookups).value[i]? = some lookup.answer)
      ∧ (joinIn order lookups).warnings.Perm
          (lookups.flatMap ownWarnings ++ List.replicate (lookups.countP crashes) .lookupCrashed)
      ∧ ∀ (i : Nat) (other : Lookup) (order' : List Nat),
          order'.Perm (pendingPlaces (lookups.set i other)) →
            ∀ j ≠ i, (joinIn order' (lookups.set i other)).value[j]? = (joinIn order lookups).value[j]? := by
  have hvalue : ∀ {order : List Nat} {lookups : List Lookup}, order.Perm (pendingPlaces lookups) →
      (joinIn order lookups).value = lookups.map answer := fun horder =>
    value_joinIn fun _ _ hi hpending => horder.mem_iff.2 (mem_pendingPlaces hi hpending)
  refine ⟨⟨?_, fun i lookup hi => ?_⟩, ?_, fun i other order' horder' j hj => ?_⟩
  · rw [hvalue h, List.length_map]
  · rw [hvalue h, List.getElem?_map, hi, Option.map_some]
  · rw [warnings_joinIn]
    refine (h.flatMap_right _).trans ?_
    rw [flatMap_pendingPlaces]
    exact flatMap_notes_perm lookups
  · rw [hvalue horder', hvalue h, List.getElem?_map, List.getElem?_map, List.getElem?_set_ne (Ne.symm hj)]

/-- Lookups of which one has a warning, one ends without an answer and one is known from the start. -/
def ofOutcomes : List Lookup :=
  [.pending (.warn (.unknownField "x") (.answered ⟨.ofList [1], false⟩)), .pending (pure .crashed),
    .ready ⟨.ofList [3], true⟩, .pending (pure (.answered ⟨.ofList [4], false⟩))]

/-- The last lookup completes first, then the one that does not answer. -/
theorem joinIn_in_any_order_crashed :
    [3, 1, 0].Perm (pendingPlaces ofOutcomes)
      ∧ (joinIn [3, 1, 0] ofOutcomes).value[1]? = some .empty
      ∧ (joinIn [3, 1, 0] ofOutcomes).value[2]? = some ⟨.ofList [3], true⟩
      ∧ (joinIn [3, 1, 0] ofOutcomes).warnings.Perm [.unknownField "x", .lookupCrashed] := by
  have horder : [3, 1, 0].Perm (pendingPlaces ofOutcomes) := by decide
  obtain ⟨⟨-, hanswers⟩, hwarnings, -⟩ := joinIn_in_any_order horder
  exact ⟨horder, hanswers 1 _ rfl, hanswers 2 _ rfl, hwarnings⟩

end Lookup

/-! ### Combining -/

namespace Query

/-- A term with an answer that depends on the term only. -/
theorem pair_map (answer : Term → Resolved) (clause : Clause) (others : List Resolved) :
    AnsweredClause.pair clause (clause.map answer ++ others)
      = clause.map fun term => ⟨term, answer term⟩ := by
  induction clause with
  | nil => rfl
  | cons term clause ih => rw [List.map_cons, List.cons_append, AnsweredClause.pair, ih, List.map_cons]

/-- Each term of each alternative is paired with its own answer. -/
theorem pairClauses_map (answer : Term → Resolved) (clauses : List Clause) :
    pairClauses clauses (clauses.flatten.map answer)
      = clauses.map fun clause => clause.map fun term => ⟨term, answer term⟩ := by
  induction clauses with
  | nil => rfl
  | cons clause clauses ih =>
      rw [List.flatten_cons, List.map_append, pairClauses, pair_map, List.map_cons,
        List.drop_left' (List.length_map answer), ih]

end Query

namespace Store

/-- Loading all features only when they are needed makes no difference. -/
theorem value_combine (store : Store) (query : Query) (answers : List Resolved) :
    (store.combine query answers).value = query.combineFrom answers store.allIds.value := by
  rw [combine]
  split
  · rfl
  · next h => exact Query.combineFrom_congr _ _ (by simpa using h)

end Store

end FeatureQuery
