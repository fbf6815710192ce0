import FeatureQuery.Session
import Mathlib.Data.List.Nodup

/-!
# Reachable stores

The stores that exist are those that arise from the empty one by changes: records are put in, collections
go offline and come back. Each change keeps two facts, which together say that the features and the index
tell the same story: no two features share an id, and the index has an id under a word exactly if the
feature of that id has the word in its name or its summary.

## Main results

* `Store.Consistent.change`: one change keeps a store consistent.
* `Store.Reachable.consistent`: every reachable store is consistent.
* `Store.reachable_ofRecords`: the store of some records is reachable, and all its collections are online.
* `Store.Consistent.mem_search`: in a consistent store a search finds the features that have every word.
-/

namespace FeatureQuery

namespace Store

/-! ### Putting features in -/

section putFeature

variable {feature f : Feature} {features : List Feature}

/-- The ids after a feature is put in: a known id keeps its place, a new one goes to the end. -/
theorem map_id_putFeature (feature : Feature) (features : List Feature) :
    (putFeature feature features).map (·.id)
      = if feature.id ∈ features.map (·.id) then features.map (·.id)
        else features.map (·.id) ++ [feature.id] := by
  induction features with
  | nil => simp [putFeature]
  | cons g rest ih =>
      rw [putFeature]
      by_cases h : g.id = feature.id
      · rw [if_pos h, if_pos (by simp [h]), List.map_cons, List.map_cons, h]
      · have hne : feature.id ≠ g.id := by
          intro heq
          exact h heq.symm
        rw [if_neg h, List.map_cons, ih]
        by_cases hmem : feature.id ∈ rest.map (·.id)
        · rw [if_pos hmem, if_pos (by simp only [List.map_cons, List.mem_cons, hmem, or_true])]
          rfl
        · rw [if_neg hmem, if_neg (by simp only [List.map_cons, List.mem_cons, hne, hmem, or_self,
            not_false_eq_true])]
          rfl

/-- Putting a feature in keeps the ids distinct. -/
theorem nodup_putFeature (feature : Feature) (h : (features.map (·.id)).Nodup) :
    ((putFeature feature features).map (·.id)).Nodup := by
  rw [map_id_putFeature]
  split
  · exact h
  · next hmem =>
      refine List.nodup_append.2 ⟨h, by simp, fun x hx y hy hxy => hmem ?_⟩
      rw [List.mem_singleton] at hy
      rwa [← hy, ← hxy]

/-- After a feature is put in there are that feature and those of the other ids. -/
theorem mem_putFeature (h : (features.map (·.id)).Nodup) :
    f ∈ putFeature feature features ↔ f = feature ∨ (f ∈ features ∧ f.id ≠ feature.id) := by
  induction features with
  | nil => simp [putFeature]
  | cons g rest ih =>
      rw [List.map_cons, List.nodup_cons] at h
      rw [putFeature]
      by_cases hg : g.id = feature.id
      · rw [if_pos hg, List.mem_cons, List.mem_cons]
        have hrest : ∀ x ∈ rest, x.id ≠ feature.id := by
          intro x hx heq
          exact h.1 (hg.trans heq.symm ▸ List.mem_map_of_mem hx)
        constructor
        · rintro (rfl | hf)
          · exact Or.inl rfl
          · exact Or.inr ⟨Or.inr hf, hrest f hf⟩
        · rintro (rfl | ⟨rfl | hf, hne⟩)
          · exact Or.inl rfl
          · exact absurd hg hne
          · exact Or.inr hf
      · rw [if_neg hg, List.mem_cons, ih h.2, List.mem_cons]
        constructor
        · rintro (rfl | rfl | ⟨hf, hne⟩)
          · exact Or.inr ⟨Or.inl rfl, hg⟩
          · exact Or.inl rfl
          · exact Or.inr ⟨Or.inr hf, hne⟩
        · rintro (rfl | ⟨rfl | hf, hne⟩)
          · exact Or.inr (Or.inl rfl)
          · exact Or.inl rfl
          · exact Or.inr (Or.inr ⟨hf, hne⟩)

end putFeature

/-- After an index is brought up to date, a feature is found by its own words, and every other one as
before. -/
theorem mem_ids_reindex {index : TextIndex} {feature : Feature} {id : Int64} {word : String} :
    id ∈ (reindex index feature).ids word
      ↔ (id = feature.id ∧ word ∈ wordsOf feature) ∨ (id ∈ index.ids word ∧ id ≠ feature.id) := by
  have key : ∀ (words : List String) (index : TextIndex),
      id ∈ (words.foldl (fun index word => index.add feature.id word) index).ids word
        ↔ (id = feature.id ∧ word ∈ words) ∨ id ∈ index.ids word := by
    intro words
    induction words with
    | nil => simp
    | cons w words ih =>
        intro index
        rw [List.foldl_cons, ih, TextIndex.mem_ids_add, List.mem_cons]
        tauto
  rw [reindex, key, TextIndex.mem_ids_erase]

/-! ### Consistency -/

/-- The features and the index of a store tell the same story. -/
structure Consistent (store : Store) : Prop where
  /-- No two features have the same id. -/
  distinct : (store.features.map (·.id)).Nodup
  /-- The index has exactly the words of the features. -/
  indexed : ∀ (word : String) (id : Int64),
    id ∈ store.index.ids word ↔ ∃ f ∈ store.features, f.id = id ∧ word ∈ wordsOf f

theorem consistent_empty : empty.Consistent where
  distinct := .nil
  indexed := fun word id => by simp [empty]

/-- Putting a feature in keeps a store consistent. -/
theorem Consistent.insertFeature {store : Store} (h : store.Consistent) (feature : Feature) :
    (store.insertFeature feature).Consistent where
  distinct := nodup_putFeature feature h.distinct
  indexed := by
    intro word id
    have hmem : ∀ f, f ∈ (store.insertFeature feature).features
        ↔ f = feature ∨ (f ∈ store.features ∧ f.id ≠ feature.id) :=
      fun f => mem_putFeature h.distinct
    rw [show (store.insertFeature feature).index = reindex store.index feature from rfl,
      mem_ids_reindex, h.indexed]
    constructor
    · rintro (⟨rfl, hword⟩ | ⟨⟨f, hf, rfl, hword⟩, hne⟩)
      · exact ⟨feature, (hmem feature).2 (Or.inl rfl), rfl, hword⟩
      · exact ⟨f, (hmem f).2 (Or.inr ⟨hf, hne⟩), rfl, hword⟩
    · rintro ⟨f, hf, rfl, hword⟩
      rcases (hmem f).1 hf with rfl | ⟨hold, hne⟩
      · exact Or.inl ⟨rfl, hword⟩
      · exact Or.inr ⟨⟨f, hold, rfl, hword⟩, hne⟩

/-- **Step.** One change keeps a store consistent. -/
theorem Consistent.change {store : Store} (h : store.Consistent) (change : Change) :
    (store.change change).Consistent := by
  cases change with
  | feature feature => exact h.insertFeature feature
  | stage stage => exact ⟨h.distinct, h.indexed⟩
  | gate gate => exact ⟨h.distinct, h.indexed⟩
  | star star => exact ⟨h.distinct, h.indexed⟩
  | offline collection offline => exact ⟨h.distinct, h.indexed⟩

/-! ### Reachability -/

/-- The stores that arise from the empty one by changes. -/
inductive Reachable : Store → Prop
  | empty : Reachable .empty
  | change {store : Store} (h : Reachable store) (change : Change) : Reachable (store.change change)

/-- **Run.** Every reachable store is consistent. -/
theorem Reachable.consistent {store : Store} (h : store.Reachable) : store.Consistent := by
  induction h with
  | empty => exact consistent_empty
  | change _ change ih => exact ih.change change

/-- Several changes of one kind lead from a reachable store to a reachable one. -/
theorem Reachable.foldl {α : Type} {store : Store} (toChange : α → Change) (h : store.Reachable)
    (items : List α) : (items.foldl (fun s item => s.change (toChange item)) store).Reachable := by
  induction items generalizing store with
  | nil => exact h
  | cons item items ih => exact ih (h.change (toChange item))

/-- The store of some records is reachable. -/
theorem reachable_ofRecords (features : List Feature) (stages : List Stage) (gates : List Gate)
    (stars : List Star) : (ofRecords features stages gates stars).Reachable :=
  (((Reachable.empty.foldl Change.feature features).foldl Change.stage stages).foldl
    Change.gate gates).foldl Change.star stars

/-! ### Stores of records -/

/-- A feature with a new id goes to the end. -/
theorem putFeature_of_new {feature : Feature} {features : List Feature}
    (h : ∀ f ∈ features, f.id ≠ feature.id) : putFeature feature features = features ++ [feature] := by
  induction features with
  | nil => rfl
  | cons f features ih =>
      rw [putFeature, if_neg (h f List.mem_cons_self), ih fun g hg => h g (List.mem_cons_of_mem f hg),
        List.cons_append]

/-- Features with distinct ids are all put at the end, one after another. -/
theorem features_foldl_insertFeature {features : List Feature} {store : Store}
    (h : ((store.features ++ features).map (·.id)).Nodup) :
    (features.foldl insertFeature store).features = store.features ++ features := by
  induction features generalizing store with
  | nil => rw [List.foldl_nil, List.append_nil]
  | cons feature features ih =>
      have hnew : ∀ f ∈ store.features, f.id ≠ feature.id := by
        intro f hf heq
        rw [List.map_append, List.nodup_append] at h
        exact h.2.2 f.id (List.mem_map_of_mem hf) feature.id
          (List.mem_map_of_mem List.mem_cons_self) heq
      have hput : (store.insertFeature feature).features = store.features ++ [feature] :=
        putFeature_of_new hnew
      rw [List.foldl_cons, ih, hput, List.append_assoc, List.singleton_append]
      rwa [hput, List.append_assoc, List.singleton_append]

/-- Putting other records in does not change a part of the store that they are not put into. -/
theorem foldl_insert_eq {α β : Type} (insert : Store → α → Store) (part : Store → β)
    (kept : ∀ store item, part (insert store item) = part store) (items : List α) (store : Store) :
    part (items.foldl insert store) = part store := by
  induction items generalizing store with
  | nil => rfl
  | cons item items ih => rw [List.foldl_cons, ih, kept]

/-- Records are put in at the end, one after another. -/
theorem foldl_insert_append {α : Type} (insert : Store → α → Store) (part : Store → List α)
    (put : ∀ store item, part (insert store item) = part store ++ [item]) (items : List α)
    (store : Store) : part (items.foldl insert store) = part store ++ items := by
  induction items generalizing store with
  | nil => rw [List.foldl_nil, List.append_nil]
  | cons item items ih =>
      rw [List.foldl_cons, ih, put, List.append_assoc, List.singleton_append]

section ofRecords

variable (features : List Feature) (stages : List Stage) (gates : List Gate) (stars : List Star)

/-- The store of features with distinct ids has those features. -/
theorem features_ofRecords {features : List Feature} (h : (features.map (·.id)).Nodup) :
    (ofRecords features stages gates stars).features = features := by
  rw [ofRecords, foldl_insert_eq insertStar Store.features fun _ _ => rfl,
    foldl_insert_eq insertGate Store.features fun _ _ => rfl,
    foldl_insert_eq insertStage Store.features fun _ _ => rfl]
  exact @features_foldl_insertFeature features .empty h

/-- The store of some records has the stages among them. -/
theorem stages_ofRecords : (ofRecords features stages gates stars).stages = stages := by
  rw [ofRecords, foldl_insert_eq insertStar Store.stages fun _ _ => rfl,
    foldl_insert_eq insertGate Store.stages fun _ _ => rfl,
    foldl_insert_append insertStage Store.stages fun _ _ => rfl,
    foldl_insert_eq insertFeature Store.stages fun _ _ => rfl]
  rfl

/-- The store of some records has the gates among them. -/
theorem gates_ofRecords : (ofRecords features stages gates stars).gates = gates := by
  rw [ofRecords, foldl_insert_eq insertStar Store.gates fun _ _ => rfl,
    foldl_insert_append insertGate Store.gates fun _ _ => rfl,
    foldl_insert_eq insertStage Store.gates fun _ _ => rfl,
    foldl_insert_eq insertFeature Store.gates fun _ _ => rfl]
  rfl

/-- The store of some records has the stars among them. -/
theorem stars_ofRecords : (ofRecords features stages gates stars).stars = stars := by
  rw [ofRecords, foldl_insert_append insertStar Store.stars fun _ _ => rfl,
    foldl_insert_eq insertGate Store.stars fun _ _ => rfl,
    foldl_insert_eq insertStage Store.stars fun _ _ => rfl,
    foldl_insert_eq insertFeature Store.stars fun _ _ => rfl]
  rfl

end ofRecords

/-- All collections can be asked. -/
def Online (store : Store) : Prop :=
  ∀ collection, collection ∉ store.offline

/-- In the store of some records all collections are online. -/
theorem online_ofRecords (features : List Feature) (stages : List Stage) (gates : List Gate)
    (stars : List Star) : (ofRecords features stages gates stars).Online := by
  have hoffline : (ofRecords features stages gates stars).offline = [] := by
    rw [ofRecords, foldl_insert_eq insertStar Store.offline fun _ _ => rfl,
      foldl_insert_eq insertGate Store.offline fun _ _ => rfl,
      foldl_insert_eq insertStage Store.offline fun _ _ => rfl,
      foldl_insert_eq insertFeature Store.offline fun _ _ => rfl]
    rfl
  intro collection
  rw [hoffline]
  exact List.not_mem_nil

/-! ### Looking features up -/

/-- The feature of an id. -/
def find? (store : Store) (id : Int64) : Option Feature :=
  store.features.find? (·.id == id)

/-- In a consistent store two features with the same id are the same. -/
theorem Consistent.eq_of_id_eq {store : Store} (h : store.Consistent) {f g : Feature}
    (hf : f ∈ store.features) (hg : g ∈ store.features) (hid : f.id = g.id) : f = g :=
  List.inj_on_of_nodup_map h.distinct hf hg hid

/-- What is found for an id is a feature of the store that has it. -/
theorem mem_of_find? {store : Store} {id : Int64} {feature : Feature} (h : store.find? id = some feature) :
    feature ∈ store.features ∧ feature.id = id := by
  rw [find?] at h
  exact ⟨List.mem_of_find?_eq_some h, by simpa using List.find?_some h⟩

/-- In a consistent store the feature of an id is the one that has it. -/
theorem Consistent.find?_eq_some_iff {store : Store} (h : store.Consistent) {id : Int64}
    {feature : Feature} : store.find? id = some feature ↔ feature ∈ store.features ∧ feature.id = id := by
  refine ⟨mem_of_find?, ?_⟩
  rintro ⟨hmem, hid⟩
  cases hfound : store.find? id with
  | none => exact absurd (List.find?_eq_none.1 hfound feature hmem) (by simp [hid])
  | some found =>
      obtain ⟨hfoundMem, hfoundId⟩ := mem_of_find? hfound
      rw [h.eq_of_id_eq hfoundMem hmem (hfoundId.trans hid.symm)]

/-- A search finds a feature exactly if the text has words and the feature has them all. -/
theorem Consistent.mem_search {store : Store} (h : store.Consistent) {feature : Feature}
    (hmem : feature ∈ store.features) {words : List String} :
    feature.id ∈ store.index.search words ↔ words ≠ [] ∧ ∀ word ∈ words, word ∈ wordsOf feature := by
  rw [TextIndex.mem_search]
  refine and_congr_right fun _ => forall₂_congr fun word _ => ?_
  rw [h.indexed]
  constructor
  · rintro ⟨f, hf, hid, hword⟩
    rwa [← h.eq_of_id_eq hf hmem hid]
  · intro hword
    exact ⟨feature, hmem, rfl, hword⟩

end Store

end FeatureQuery
