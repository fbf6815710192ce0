/-!
# Sets of ids

A set of 64-bit ids is kept as its members in ascending order, so equal sets are equal values and the
members come out in order.

## Main results

* `mem_insert`, `mem_ofList`, `mem_union`, `mem_inter`, `mem_diff`: membership in what each operation
  returns.
* `ext_mem`: two sets with the same members are equal.
-/

namespace FeatureQuery

/-- A finite set of ids. -/
structure IdSet where
  /-- The members in ascending order. -/
  toList : List Int64
  ascending : toList.Pairwise (· < ·)
  deriving DecidableEq

namespace IdSet

instance : Membership Int64 IdSet where
  mem s id := id ∈ s.toList

/-- An id is in a set if it is in the list of its ids. -/
theorem mem_def {id : Int64} {s : IdSet} : id ∈ s ↔ id ∈ s.toList := Iff.rfl

instance (id : Int64) (s : IdSet) : Decidable (id ∈ s) :=
  inferInstanceAs (Decidable (id ∈ s.toList))

/-- The set without members. -/
def empty : IdSet := ⟨[], .nil⟩

/-- No id is in the empty set. -/
@[simp] theorem not_mem_empty (id : Int64) : id ∉ empty := by
  simp [mem_def, empty]

/-- The set has no members. -/
def isEmpty (s : IdSet) : Bool :=
  s.toList.isEmpty

/-! ### Insertion -/

/-- An ascending list with one more member. -/
def insertAscending (id : Int64) : List Int64 → List Int64
  | [] => [id]
  | first :: rest =>
    if id < first then id :: first :: rest
    else if id = first then first :: rest
    else first :: insertAscending id rest

/-- An id that is put in is there, with all that were there before. -/
theorem mem_insertAscending {id x : Int64} {ids : List Int64} :
    x ∈ insertAscending id ids ↔ x = id ∨ x ∈ ids := by
  induction ids with
  | nil => simp [insertAscending]
  | cons first rest ih =>
    unfold insertAscending
    split
    · simp
    · split
      · rename_i h
        simp [h]
      · simp only [List.mem_cons, ih]
        exact or_left_comm

/-- Ids that ascend still do with one more put in its place. -/
theorem pairwise_insertAscending (id : Int64) {ids : List Int64} (h : ids.Pairwise (· < ·)) :
    (insertAscending id ids).Pairwise (· < ·) := by
  induction ids with
  | nil => simp [insertAscending]
  | cons first rest ih =>
    obtain ⟨hfirst, hrest⟩ := List.pairwise_cons.1 h
    unfold insertAscending
    split
    · rename_i hlt
      refine List.pairwise_cons.2 ⟨fun x hx => ?_, h⟩
      rcases List.mem_cons.1 hx with rfl | hx
      · exact hlt
      · exact Int64.lt_trans hlt (hfirst x hx)
    · split
      · exact h
      · rename_i hnlt hne
        refine List.pairwise_cons.2 ⟨fun x hx => ?_, ih hrest⟩
        rcases mem_insertAscending.1 hx with rfl | hx
        · exact Int64.lt_of_le_of_ne (Int64.not_lt.1 hnlt) (Ne.symm hne)
        · exact hfirst x hx

/-- The set with one more member. -/
def insert (id : Int64) (s : IdSet) : IdSet :=
  ⟨insertAscending id s.toList, pairwise_insertAscending id s.ascending⟩

/-- The set with an id put in has this id and those that it had. -/
@[simp] theorem mem_insert {id x : Int64} {s : IdSet} : x ∈ s.insert id ↔ x = id ∨ x ∈ s :=
  mem_insertAscending

/-- The set of the members of a list. -/
def ofList (ids : List Int64) : IdSet :=
  ids.foldr insert empty

/-- The set of a list has the ids of the list. -/
@[simp] theorem mem_ofList {ids : List Int64} {x : Int64} : x ∈ ofList ids ↔ x ∈ ids := by
  induction ids with
  | nil => simp [ofList]
  | cons id ids ih =>
    rw [ofList, List.foldr_cons, mem_insert, List.mem_cons]
    exact or_congr_right ih

/-! ### Combination -/

/-- The members that satisfy a condition. -/
def filter (s : IdSet) (p : Int64 → Bool) : IdSet :=
  ⟨s.toList.filter p, s.ascending.filter p⟩

/-- A filtered set has those of its ids that pass. -/
@[simp] theorem mem_filter {s : IdSet} {p : Int64 → Bool} {x : Int64} :
    x ∈ s.filter p ↔ x ∈ s ∧ p x = true :=
  List.mem_filter

/-- The members of either set. -/
def union (s t : IdSet) : IdSet :=
  s.toList.foldr insert t

/-- A union has the ids of both sets. -/
@[simp] theorem mem_union {s t : IdSet} {x : Int64} : x ∈ s.union t ↔ x ∈ s ∨ x ∈ t := by
  have key : ∀ ids : List Int64, x ∈ ids.foldr insert t ↔ x ∈ ids ∨ x ∈ t := by
    intro ids
    induction ids with
    | nil => simp
    | cons id ids ih => rw [List.foldr_cons, mem_insert, ih, List.mem_cons, or_assoc]
  exact key s.toList

/-- The members of both sets. -/
def inter (s t : IdSet) : IdSet :=
  s.filter fun id => decide (id ∈ t)

/-- An intersection has the ids that are in both sets. -/
@[simp] theorem mem_inter {s t : IdSet} {x : Int64} : x ∈ s.inter t ↔ x ∈ s ∧ x ∈ t := by
  simp [inter]

/-- The members of the first set that are not in the second. -/
def diff (s t : IdSet) : IdSet :=
  s.filter fun id => !decide (id ∈ t)

/-- A difference has the ids of the first set that are not in the second. -/
@[simp] theorem mem_diff {s t : IdSet} {x : Int64} : x ∈ s.diff t ↔ x ∈ s ∧ x ∉ t := by
  simp [diff]

/-- The set without one member. -/
def erase (s : IdSet) (id : Int64) : IdSet :=
  s.filter fun x => x != id

/-- A set without an id has the others. -/
@[simp] theorem mem_erase {s : IdSet} {id x : Int64} : x ∈ s.erase id ↔ x ∈ s ∧ x ≠ id := by
  simp [erase]

/-! ### Equality -/

/-- Lists that ascend are the same if they have the same ids. -/
theorem eq_of_ascending {s t : List Int64} (hs : s.Pairwise (· < ·)) (ht : t.Pairwise (· < ·))
    (h : ∀ x, x ∈ s ↔ x ∈ t) : s = t := by
  induction s generalizing t with
  | nil =>
    cases t with
    | nil => rfl
    | cons b t => simpa using (h b).2 List.mem_cons_self
  | cons a s ih =>
    cases t with
    | nil => simpa using (h a).1 List.mem_cons_self
    | cons b t =>
      have ha := List.pairwise_cons.1 hs
      have hb := List.pairwise_cons.1 ht
      have hab : a = b := by
        rcases List.mem_cons.1 ((h a).1 List.mem_cons_self) with rfl | hat
        · rfl
        · rcases List.mem_cons.1 ((h b).2 List.mem_cons_self) with rfl | hbs
          · rfl
          · exact absurd (Int64.lt_trans (ha.1 b hbs) (hb.1 a hat)) Int64.lt_irrefl
      subst hab
      refine congrArg _ (ih ha.2 hb.2 fun x => ⟨fun hx => ?_, fun hx => ?_⟩)
      · rcases List.mem_cons.1 ((h x).1 (List.mem_cons_of_mem _ hx)) with rfl | hx'
        · exact absurd (ha.1 _ hx) Int64.lt_irrefl
        · exact hx'
      · rcases List.mem_cons.1 ((h x).2 (List.mem_cons_of_mem _ hx)) with rfl | hx'
        · exact absurd (hb.1 _ hx) Int64.lt_irrefl
        · exact hx'

/-- Sets are the same if they have the same ids. -/
theorem ext_mem {s t : IdSet} (h : ∀ id, id ∈ s ↔ id ∈ t) : s = t := by
  obtain ⟨s, hs⟩ := s
  obtain ⟨t, ht⟩ := t
  have := eq_of_ascending hs ht h
  subst this
  rfl

end IdSet

end FeatureQuery
