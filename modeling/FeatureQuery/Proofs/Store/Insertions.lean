import FeatureQuery.Proofs.Page
import Mathlib.Data.List.Induction

/-!
# What insertions leave behind

Records are put into the empty store one after another. A feature takes the place of the one with its id, and
the index forgets the words of the old one, so what is left depends on the last feature of each id only. The
order of the features is that in which their ids came up first.

## Main results

* `Store.HoldsLatest.change`: what a store holds after one more record.
* `Store.holdsLatest_ofChanges`: what it holds after any number of them.
* `Store.Consistent.exists_searchText`: what a search returns.
* `Store.insertions_represent`: the features, the index and the searches after any insertions.
-/

namespace FeatureQuery

/-! ### Indexes without empty postings -/

namespace IdSet

/-- A set with one more member is not empty. -/
theorem isEmpty_insert (id : Int64) (s : IdSet) : (s.insert id).isEmpty = false := by
  have hmem : id ∈ (s.insert id).toList := mem_insert.2 (Or.inl rfl)
  exact Bool.eq_false_iff.2 fun h => List.ne_nil_of_mem hmem (List.isEmpty_iff.1 h)

end IdSet

namespace TextIndex

/-- Every word of the index has ids. -/
def Inhabited (index : TextIndex) : Prop :=
  ∀ posting ∈ index.postings, posting.2.isEmpty = false

/-- The empty index has no word without ids. -/
theorem inhabited_empty : empty.Inhabited :=
  fun _ h => absurd h List.not_mem_nil

/-- Words that have no other id go with the id. -/
theorem inhabited_erase (index : TextIndex) (id : Int64) : (index.erase id).Inhabited := by
  intro posting hposting
  obtain ⟨old, -, herased⟩ := List.mem_filterMap.1 hposting
  rw [erasePosting] at herased
  split at herased
  · exact absurd herased (by simp)
  · next hkept =>
      obtain rfl := Option.some.inj herased
      exact Bool.eq_false_iff.2 hkept

/-- A posting after an id is added is an old one or has that id. -/
theorem isEmpty_of_mem_addPosting {id : Int64} {word : String} {postings : List (String × IdSet)}
    (h : ∀ posting ∈ postings, posting.2.isEmpty = false) :
    ∀ posting ∈ addPosting id word postings, posting.2.isEmpty = false := by
  induction postings with
  | nil =>
      intro posting hposting
      obtain rfl := List.mem_singleton.1 hposting
      exact IdSet.isEmpty_insert id _
  | cons first rest ih =>
      obtain ⟨w, ids⟩ := first
      obtain ⟨hfirst, hrest⟩ := List.forall_mem_cons.1 h
      rw [addPosting]
      split
      · exact List.forall_mem_cons.2 ⟨IdSet.isEmpty_insert id ids, hrest⟩
      · exact List.forall_mem_cons.2 ⟨hfirst, ih hrest⟩

/-- One more posting leaves no word without ids. -/
theorem Inhabited.add {index : TextIndex} (h : index.Inhabited) (id : Int64) (word : String) :
    (index.add id word).Inhabited :=
  isEmpty_of_mem_addPosting h

/-- Bringing an index up to date leaves no word without ids, whatever there was before. -/
theorem inhabited_reindex (index : TextIndex) (feature : Feature) :
    (Store.reindex index feature).Inhabited := by
  have key : ∀ (words : List String) (index : TextIndex), index.Inhabited →
      (words.foldl (fun index word => index.add feature.id word) index).Inhabited := by
    intro words
    induction words with
    | nil => exact fun _ h => h
    | cons word words ih => exact fun index h => ih _ (h.add feature.id word)
  exact key _ _ (inhabited_erase index feature.id)

end TextIndex

/-! ### Changes -/

namespace Change

/-- A record is put in. -/
def isInsertion : Change → Bool
  | feature _ | stage _ | gate _ | star _ => true
  | offline .. => false

/-- The feature that is put in. -/
def feature? : Change → Option Feature
  | feature f => some f
  | stage _ | gate _ | star _ | offline .. => none

/-- The features that are put in, those that are replaced later included. -/
def inserted (changes : List Change) : List Feature :=
  changes.filterMap feature?

end Change

namespace Store

/-- The store after some changes. -/
def ofChanges (changes : List Change) : Store :=
  changes.foldl change empty

/-! ### Features -/

/-- Of the features of an id the one that was put in last is found. -/
theorem find?_putFeature (feature : Feature) (features : List Feature) (id : Int64) :
    (putFeature feature features).find? (·.id == id)
      = if feature.id = id then some feature else features.find? (·.id == id) := by
  induction features with
  | nil => by_cases hid : feature.id = id <;> simp [putFeature, hid]
  | cons f rest ih =>
      rw [putFeature]
      by_cases hf : f.id = feature.id
      -- The feature that is replaced has the same id, so no other id is found in its place.
      · rw [if_pos hf]
        by_cases hid : feature.id = id
        · simp [hid]
        · have hold : f.id ≠ id := fun heq => hid (hf.symm.trans heq)
          rw [List.find?_cons_of_neg (by simpa using hid), List.find?_cons_of_neg (by simpa using hold),
            if_neg hid]
      · rw [if_neg hf]
        by_cases hid : f.id = id
        · have hne : feature.id ≠ id := fun heq => hf (hid.trans heq.symm)
          rw [List.find?_cons_of_pos (by simpa using hid), List.find?_cons_of_pos (by simpa using hid),
            if_neg hne]
        · rw [List.find?_cons_of_neg (by simpa using hid), ih, List.find?_cons_of_neg (by simpa using hid)]

/-- One more item is kept if it was not there before. -/
theorem eraseDups_append_singleton (ids : List Int64) (id : Int64) :
    (ids ++ [id]).eraseDups = if id ∈ ids then ids.eraseDups else ids.eraseDups ++ [id] := by
  rw [List.eraseDups_append]
  by_cases h : id ∈ ids
  · simp [List.removeAll, h]
  · simp [List.removeAll, h, List.eraseDups_cons]

/-- What a store holds after some features were put in. -/
structure HoldsLatest (store : Store) (inserted : List Feature) : Prop where
  /-- The features are in the order in which their ids came up first. -/
  ids_eq : store.features.map (·.id) = (inserted.map (·.id)).eraseDups
  /-- The feature of an id is the last one that was put in with it. -/
  find?_eq : ∀ id, store.find? id = inserted.reverse.find? (·.id == id)
  /-- No word of the index has lost all its features. -/
  inhabited : store.index.Inhabited

theorem holdsLatest_empty : empty.HoldsLatest [] where
  ids_eq := rfl
  find?_eq := fun _ => rfl
  inhabited := TextIndex.inhabited_empty

/-- What a store holds after one more feature. -/
theorem HoldsLatest.insertFeature {store : Store} {inserted : List Feature}
    (h : store.HoldsLatest inserted) (feature : Feature) :
    (store.insertFeature feature).HoldsLatest (inserted ++ [feature]) where
  ids_eq := by
    have hmem : feature.id ∈ store.features.map (·.id) ↔ feature.id ∈ inserted.map (·.id) := by
      rw [h.ids_eq, List.mem_eraseDups]
    rw [Store.insertFeature, map_id_putFeature, List.map_append, List.map_singleton,
      eraseDups_append_singleton, ← h.ids_eq]
    exact if_congr hmem rfl rfl
  find?_eq := by
    intro id
    rw [List.reverse_append, List.reverse_singleton, List.singleton_append]
    refine (find?_putFeature feature store.features id).trans ?_
    by_cases hid : feature.id = id
    · rw [if_pos hid, List.find?_cons_of_pos (by simpa using hid)]
    · rw [if_neg hid, List.find?_cons_of_neg (by simpa using hid), ← h.find?_eq id]
      rfl
  inhabited := TextIndex.inhabited_reindex store.index feature

/-- **Step.** What a store holds after one more change. -/
theorem HoldsLatest.change {store : Store} {inserted : List Feature} (h : store.HoldsLatest inserted)
    (change : Change) : (store.change change).HoldsLatest (inserted ++ change.feature?.toList) := by
  cases change with
  | feature feature => exact h.insertFeature feature
  | stage stage => exact (List.append_nil inserted).symm ▸ ⟨h.ids_eq, h.find?_eq, h.inhabited⟩
  | gate gate => exact (List.append_nil inserted).symm ▸ ⟨h.ids_eq, h.find?_eq, h.inhabited⟩
  | star star => exact (List.append_nil inserted).symm ▸ ⟨h.ids_eq, h.find?_eq, h.inhabited⟩
  | offline collection offline =>
      exact (List.append_nil inserted).symm ▸ ⟨h.ids_eq, h.find?_eq, h.inhabited⟩

/-- **Run.** What a store holds after any changes. -/
theorem holdsLatest_ofChanges (changes : List Change) :
    (ofChanges changes).HoldsLatest (Change.inserted changes) := by
  induction changes using List.reverseRecOn with
  | nil => exact holdsLatest_empty
  | append_singleton changes change ih =>
      have hinserted : Change.inserted (changes ++ [change])
          = Change.inserted changes ++ change.feature?.toList := by
        rw [Change.inserted, List.filterMap_append]
        cases hfeature : change.feature? <;> simp [Change.inserted, hfeature]
      rw [ofChanges, List.foldl_append, hinserted]
      exact ih.change change

/-- The store after any changes is consistent. -/
theorem consistent_ofChanges (changes : List Change) : (ofChanges changes).Consistent :=
  (Reachable.empty.foldl (fun change => change) changes).consistent

/-- A record that is put in leaves all collections online. -/
theorem Online.change {store : Store} (online : store.Online) {change : Change}
    (h : change.isInsertion = true) : (store.change change).Online := by
  cases change with
  | offline collection offline => exact absurd h Bool.false_ne_true
  | feature feature => exact online
  | stage stage => exact online
  | gate gate => exact online
  | star star => exact online

/-- Insertions leave all collections online. -/
theorem online_ofChanges {changes : List Change} (h : ∀ change ∈ changes, change.isInsertion = true) :
    (ofChanges changes).Online := by
  induction changes using List.reverseRecOn with
  | nil => exact fun _ => List.not_mem_nil
  | append_singleton changes change ih =>
      obtain ⟨hbefore, hlast⟩ := List.forall_mem_append.1 h
      rw [ofChanges, List.foldl_append]
      exact (ih hbefore).change (hlast change (List.mem_singleton_self change))

/-! ### Searches -/

/-- A search of a consistent store that is online returns, in ascending order, the features that have every
word of the text. -/
theorem Consistent.exists_searchText {store : Store} (h : store.Consistent) (online : store.Online)
    (text : String) :
    ∃ ids, store.searchText text = .ok ids ∧ ids.Pairwise (· < ·)
      ∧ ∀ id, id ∈ ids ↔ indexWords text ≠ [] ∧ ∃ f ∈ store.features, f.id = id
          ∧ ∀ word ∈ indexWords text, word ∈ wordsOf f := by
  refine ⟨_, online.searchText text, IdSet.ascending _, fun id => ?_⟩
  rw [← IdSet.mem_def]
  constructor
  · intro hfound
    obtain ⟨hne, hall⟩ := TextIndex.mem_search.1 hfound
    obtain ⟨word, hword⟩ := List.exists_mem_of_ne_nil _ hne
    obtain ⟨f, hf, rfl, -⟩ := (h.indexed word id).1 (hall word hword)
    exact ⟨hne, f, hf, rfl, ((h.mem_search hf).1 hfound).2⟩
  · rintro ⟨hne, f, hf, rfl, hall⟩
    exact (h.mem_search hf).2 ⟨hne, hall⟩

/-- **What insertions leave behind.** After any records were put into the empty store, no two features have the
same id, the feature of an id is the last one that was put in with it, and the features are in the order in
which their ids came up first. The index has a feature under the words of its name and its summary only, and no
word without a feature. A search returns, in ascending order, the features that have every word of the text, and
none if it has no word. -/
theorem insertions_represent {changes : List Change}
    (h : ∀ change ∈ changes, change.isInsertion = true) :
    (((ofChanges changes).features.map (·.id)).Nodup
        ∧ (ofChanges changes).features.map (·.id) = ((Change.inserted changes).map (·.id)).eraseDups
        ∧ ∀ id, (ofChanges changes).find? id = (Change.inserted changes).reverse.find? (·.id == id))
      ∧ ((∀ word id, id ∈ (ofChanges changes).index.ids word
            ↔ ∃ f ∈ (ofChanges changes).features, f.id = id
                ∧ (word ∈ indexWords f.name ∨ word ∈ indexWords f.summary))
        ∧ ∀ posting ∈ (ofChanges changes).index.postings, posting.2.isEmpty = false)
      ∧ ∀ text, ∃ ids, (ofChanges changes).searchText text = .ok ids ∧ ids.Pairwise (· < ·)
          ∧ (indexWords text = [] → ids = [])
          ∧ (indexWords text ≠ [] → ∀ id, id ∈ ids ↔ ∃ f ∈ (ofChanges changes).features, f.id = id
              ∧ ∀ word ∈ indexWords text, word ∈ indexWords f.name ∨ word ∈ indexWords f.summary) := by
  have consistent := consistent_ofChanges changes
  have hlatest := holdsLatest_ofChanges changes
  have hwords : ∀ (f : Feature) (word : String),
      word ∈ wordsOf f ↔ word ∈ indexWords f.name ∨ word ∈ indexWords f.summary :=
    fun _ _ => List.mem_append
  refine ⟨⟨consistent.distinct, hlatest.ids_eq, hlatest.find?_eq⟩, ⟨fun word id => ?_, hlatest.inhabited⟩,
    fun text => ?_⟩
  · simp only [consistent.indexed, hwords]
  · obtain ⟨ids, hsearch, hascending, hmem⟩ := consistent.exists_searchText (online_ofChanges h) text
    refine ⟨ids, hsearch, hascending, fun hnone => ?_, fun hne id => ?_⟩
    · exact List.eq_nil_iff_forall_not_mem.2 fun id hid => ((hmem id).1 hid).1 hnone
    · simp only [hmem, hwords, ne_eq, hne, not_false_eq_true, true_and]

/-- A feature is put in, another one with a stage, and then the first one again under a new name. -/
def ofRenaming : List Change :=
  [.feature { Feature.ownedBy "ann" 7 false with name := "Grid Lanes", summary := "Masonry layout" },
    .feature { Feature.ownedBy "bob" 3 false with name := "Scroll lanes" }, .stage (.shippedIn 3 120),
    .feature { Feature.ownedBy "ann" 7 false with name := "Flow lanes", summary := "The lanes layout" }]

/-- The renamed feature keeps its place, and it is not found by a word of its old name any more. -/
theorem insertions_represent_renamed :
    (∀ change ∈ ofRenaming, change.isInsertion = true)
      ∧ (ofChanges ofRenaming).features.map (·.id) = [7, 3]
      ∧ ((ofChanges ofRenaming).find? 7).map (·.name) = some "Flow lanes"
      ∧ ∃ ids, (ofChanges ofRenaming).searchText "Grid" = .ok ids ∧ ids.Pairwise (· < ·) ∧ 7 ∉ ids := by
  have hinsertions : ∀ change ∈ ofRenaming, change.isInsertion = true := by decide
  obtain ⟨⟨-, hids, hfind⟩, -, hsearch⟩ := insertions_represent hinsertions
  obtain ⟨ids, hfound, hascending, -, hmem⟩ := hsearch "Grid"
  refine ⟨hinsertions, hids, ?_, ids, hfound, hascending, fun hseven => ?_⟩
  · rw [hfind]
    rfl
  · have hgrid : indexWords "Grid" = ["grid"] := by decide +kernel
    have hnowhere : ∀ f ∈ (ofChanges ofRenaming).features,
        "grid" ∉ indexWords f.name ∧ "grid" ∉ indexWords f.summary := by decide +kernel
    obtain ⟨f, hf, -, hwords⟩ := (hmem (by simp [hgrid]) 7).1 hseven
    obtain ⟨hname, hsummary⟩ := hnowhere f hf
    exact (hwords "grid" (by simp [hgrid])).elim hname hsummary

end Store

end FeatureQuery
