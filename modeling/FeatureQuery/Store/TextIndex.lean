import FeatureQuery.IdSet
import FeatureQuery.Text.Alphanumeric
import FeatureQuery.Text.Lowercase
import FeatureQuery.Text.Split

/-!
# Text index

The words of a text are its runs of letters and digits in lowercase. A text index keeps, for each word,
the ids of the features in whose texts it occurs.

## Main results

* `mem_ids_add`, `mem_ids_erase`: what a word's ids are after each operation.
* `mem_search`: a search finds the ids that have every word, and nothing if there is no word.
-/

namespace FeatureQuery

open FeatureQuery.Text (isAlphanumeric lowercase wordsBetween)

/-- The words of a text. -/
def indexWords (text : String) : List String :=
  (wordsBetween (fun c => !isAlphanumeric c) text.toList).map fun word => String.ofList (lowercase word)

/-- For each word, the ids in whose texts it occurs. -/
structure TextIndex where
  postings : List (String × IdSet)
  distinct : (postings.map (·.1)).Nodup

namespace TextIndex

/-- The index of no text. -/
def empty : TextIndex := ⟨[], .nil⟩

/-- The ids of a word. -/
def ids (index : TextIndex) (word : String) : IdSet :=
  (index.postings.lookup word).getD .empty

/-- No word leads to an id in the empty index. -/
@[simp] theorem not_mem_ids_empty (word : String) (id : Int64) : id ∉ empty.ids word := by
  simp [ids, empty]

/-! ### Adding -/

/-- The postings with an id added to a word's. -/
def addPosting (id : Int64) (word : String) : List (String × IdSet) → List (String × IdSet)
  | [] => [(word, IdSet.empty.insert id)]
  | (w, ids) :: rest =>
    if w = word then (w, ids.insert id) :: rest else (w, ids) :: addPosting id word rest

/-- With one more posting its word is listed, and so are those that were. -/
theorem mem_words_addPosting {id : Int64} {word w : String} {postings : List (String × IdSet)} :
    w ∈ (addPosting id word postings).map (·.1) ↔ w = word ∨ w ∈ postings.map (·.1) := by
  induction postings with
  | nil => simp [addPosting]
  | cons posting rest ih =>
    obtain ⟨v, ids⟩ := posting
    unfold addPosting
    split
    · rename_i h
      simp [h]
    · rw [List.map_cons, List.mem_cons, ih, List.map_cons, List.mem_cons, or_left_comm]

/-- A word that gets one more posting is still listed once. -/
theorem nodup_addPosting {id : Int64} {word : String} {postings : List (String × IdSet)}
    (h : (postings.map (·.1)).Nodup) : ((addPosting id word postings).map (·.1)).Nodup := by
  induction postings with
  | nil => simp [addPosting]
  | cons posting rest ih =>
    obtain ⟨v, ids⟩ := posting
    rw [List.map_cons, List.nodup_cons] at h
    unfold addPosting
    split
    · rw [List.map_cons, List.nodup_cons]
      exact h
    · rename_i hne
      rw [List.map_cons, List.nodup_cons, mem_words_addPosting]
      exact ⟨fun hmem => hmem.elim hne h.1, ih h.2⟩

/-- The index with an id added to a word. -/
def add (index : TextIndex) (id : Int64) (word : String) : TextIndex :=
  ⟨addPosting id word index.postings, nodup_addPosting index.distinct⟩

/-- One more posting is there, with all that were there before. -/
theorem mem_ids_add {index : TextIndex} {id x : Int64} {word w : String} :
    x ∈ (index.add id word).ids w ↔ (w = word ∧ x = id) ∨ x ∈ index.ids w := by
  obtain ⟨postings, distinct⟩ := index
  simp only [ids, add]
  clear distinct
  induction postings with
  | nil =>
    by_cases h : w = word
    · simp [addPosting, h]
    · simp [addPosting, List.lookup_cons, h, beq_eq_false_iff_ne.2 h]
  | cons posting rest ih =>
    obtain ⟨v, ids⟩ := posting
    unfold addPosting
    by_cases hv : v = word
    · subst hv
      by_cases hw : w = v
      · simp [hw]
      · simp [hw, List.lookup_cons, beq_eq_false_iff_ne.2 hw]
    · by_cases hw : w = v
      · simp [hv, hw]
      · have hb : (w == v) = false := beq_eq_false_iff_ne.2 hw
        simpa [hv, hb, List.lookup_cons] using ih

/-! ### Removing -/

/-- A posting without an id; a word that no other id has is dropped. -/
def erasePosting (id : Int64) (posting : String × IdSet) : Option (String × IdSet) :=
  if (posting.2.erase id).isEmpty then none else some (posting.1, posting.2.erase id)

/-- Taking out an id adds no word and moves none. -/
theorem sublist_words_erase (id : Int64) (postings : List (String × IdSet)) :
    ((postings.filterMap (erasePosting id)).map (·.1)).Sublist (postings.map (·.1)) := by
  induction postings with
  | nil => simp
  | cons posting rest ih =>
    rw [List.filterMap_cons]
    unfold erasePosting
    split
    · rename_i h
      split at h
      · exact ih.cons _
      · simp at h
    · rename_i h
      split at h
      · simp at h
      · obtain rfl := Option.some.inj h
        exact ih.cons_cons _

/-- The index without an id. -/
def erase (index : TextIndex) (id : Int64) : TextIndex :=
  ⟨index.postings.filterMap (erasePosting id),
    (sublist_words_erase id index.postings).nodup index.distinct⟩

/-- A word that is not listed has no postings. -/
theorem lookup_eq_none_of_not_mem {postings : List (String × IdSet)} {word : String}
    (h : word ∉ postings.map (·.1)) : postings.lookup word = none := by
  rw [List.lookup_eq_none_iff]
  intro posting hmem
  have hne : word ≠ posting.1 := fun heq => h (heq ▸ List.mem_map_of_mem hmem)
  simpa using hne

/-- An index without an id has the postings of the others. -/
theorem mem_ids_erase {index : TextIndex} {id x : Int64} {word : String} :
    x ∈ (index.erase id).ids word ↔ x ∈ index.ids word ∧ x ≠ id := by
  obtain ⟨postings, distinct⟩ := index
  simp only [ids, erase]
  induction postings with
  | nil => simp
  | cons posting rest ih =>
    obtain ⟨v, ids⟩ := posting
    rw [List.map_cons, List.nodup_cons] at distinct
    have ih := ih distinct.2
    rw [List.filterMap_cons]
    by_cases hw : word = v
    · subst hw
      have hrest : (rest.filterMap (erasePosting id)).lookup word = none :=
        lookup_eq_none_of_not_mem fun h => distinct.1 ((sublist_words_erase id rest).subset h)
      by_cases hempty : (ids.erase id).isEmpty = true
      · have hnone : x ∉ ids.erase id := by
          rw [IdSet.isEmpty, List.isEmpty_iff] at hempty
          simp [IdSet.mem_def, hempty]
        rw [IdSet.mem_erase] at hnone
        simp [erasePosting, hempty, hrest, hnone]
      · simp [erasePosting, hempty]
    · have hb : (word == v) = false := beq_eq_false_iff_ne.2 hw
      by_cases hempty : (ids.erase id).isEmpty = true
      · simpa [erasePosting, hempty, List.lookup_cons, hb] using ih
      · simpa [erasePosting, hempty, List.lookup_cons, hb] using ih

/-! ### Searching -/

/-- The ids that have every word of a list; none if there is no word. -/
def search (index : TextIndex) : List String → IdSet
  | [] => .empty
  | word :: words => words.foldl (fun hits w => hits.inter (index.ids w)) (index.ids word)

/-- A search finds the ids that all its words lead to, and none where there are no words. -/
theorem mem_search {index : TextIndex} {words : List String} {x : Int64} :
    x ∈ index.search words ↔ words ≠ [] ∧ ∀ word ∈ words, x ∈ index.ids word := by
  cases words with
  | nil => simp [search]
  | cons word words =>
    have key : ∀ (ws : List String) (hits : IdSet),
        x ∈ ws.foldl (fun hits w => hits.inter (index.ids w)) hits
          ↔ x ∈ hits ∧ ∀ w ∈ ws, x ∈ index.ids w := by
      intro ws
      induction ws with
      | nil => simp
      | cons w ws ih =>
        intro hits
        rw [List.foldl_cons, ih, IdSet.mem_inter, List.forall_mem_cons, and_assoc]
    simp [search, key]

end TextIndex

end FeatureQuery
