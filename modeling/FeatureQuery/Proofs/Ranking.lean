import FeatureQuery.Ranking

/-!
# Sorting and ranking parts of a list

A stable sort treats the members of a list independently of each other: what is left of a sorted list after
some members are dropped is the sorted list of what is left of them. Ranking inherits this on both sides. It
ranks a part of a set as it ranks the whole, and of the order it uses only what is said about members of
the set.

## Main results

* `filter_mergeSort`, `filter_mergeSort_of_mem`: dropping members before and after sorting is the same.
* `stable_mergeSort`, `stable_mergeSort_of_mem`: members that may stand either way round stay as they are.
* `IdSet.idxOf_rank_lt_iff`: of two ids that one is ranked first which the order puts first.
* `IdSet.rank_nil`: without an order a set is ranked by id.
* `IdSet.rank_filter`: the ranking of a part of a set is that part of its ranking.
* `IdSet.rank_filter_order`: what the order says about other ids makes no difference.
-/

namespace FeatureQuery

/-! ### Stable sorting -/

section Sorting

variable {α : Type} {le : α → α → Bool}

/-- A list is cut in one place only so that a test fails before the cut and succeeds after it. -/
theorem append_cut_unique (test : α → Bool) {before after before' after' : List α}
    (h : before ++ after = before' ++ after')
    (hbefore : ∀ x ∈ before, test x = false) (hafter : ∀ x ∈ after, test x = true)
    (hbefore' : ∀ x ∈ before', test x = false) (hafter' : ∀ x ∈ after', test x = true) :
    before = before' ∧ after = after' := by
  have key : ∀ {xs ys : List α}, (∀ x ∈ xs, test x = false) → (∀ y ∈ ys, test y = true) →
      (xs ++ ys).filter test = ys := by
    intro xs ys hxs hys
    rw [List.filter_append, List.filter_eq_self.2 hys, List.filter_eq_nil_iff.2 fun x hx => by
      rw [hxs x hx]; exact Bool.false_ne_true, List.nil_append]
  have hsame : after = after' := by
    rw [← key hbefore hafter, h, key hbefore' hafter']
  exact ⟨List.append_cancel_right (hsame ▸ h), hsame⟩

/-- In a sorted list everything after a member is at least as great as it. -/
theorem le_of_mem_after (trans : ∀ a b c, le a b = true → le b c = true → le a c = true)
    (total : ∀ a b, (le a b || le b a) = true) {a : α} {l l₁ l₂ : List α}
    (h : l.mergeSort le = l₁ ++ a :: l₂) : ∀ b ∈ l₂, le a b = true := by
  have hsorted := List.pairwise_mergeSort trans total l
  rw [h] at hsorted
  exact (List.pairwise_cons.1 (List.pairwise_append.1 hsorted).2.1).1

/-- **Sorting a part of a list.** Dropping members before and after sorting is the same. -/
theorem filter_mergeSort (trans : ∀ a b c, le a b = true → le b c = true → le a c = true)
    (total : ∀ a b, (le a b || le b a) = true) (p : α → Bool) (l : List α) :
    (l.mergeSort le).filter p = (l.filter p).mergeSort le := by
  induction l with
  | nil => simp
  | cons a l ih =>
      obtain ⟨l₁, l₂, hcons, htail, hbefore⟩ := List.mergeSort_cons trans total a l
      have hparts : (l.filter p).mergeSort le = l₁.filter p ++ l₂.filter p := by
        rw [← ih, htail, List.filter_append]
      rw [hcons, List.filter_append]
      by_cases ha : p a = true
      · obtain ⟨k₁, k₂, hcons', htail', hbefore'⟩ := List.mergeSort_cons trans total a (l.filter p)
        -- Both lists are cut before the first member that `a` may precede.
        obtain ⟨hk₁, hk₂⟩ := append_cut_unique (le a) (htail'.symm.trans hparts)
          (fun b hb => by simpa using hbefore' b hb) (le_of_mem_after trans total hcons')
          (fun b hb => by simpa using hbefore b (List.mem_filter.1 hb).1)
          (fun b hb => le_of_mem_after trans total hcons b (List.mem_filter.1 hb).1)
        rw [List.filter_cons_of_pos ha, List.filter_cons_of_pos ha, hcons', hk₁, hk₂]
      · rw [List.filter_cons_of_neg ha, List.filter_cons_of_neg ha, hparts]

/-- **Stability.** In a sorted list, members that may stand either way round stand as they did before. -/
theorem stable_mergeSort {R : α → α → Prop}
    (trans : ∀ a b c, le a b = true → le b c = true → le a c = true)
    (total : ∀ a b, (le a b || le b a) = true) {l : List α} (h : l.Pairwise R) :
    (l.mergeSort le).Pairwise fun a b => le a b = true ∧ (le b a = true → R a b) := by
  induction l with
  | nil => simp
  | cons a l ih =>
      obtain ⟨hfirst, hrest⟩ := List.pairwise_cons.1 h
      obtain ⟨l₁, l₂, hcons, htail, hbefore⟩ := List.mergeSort_cons trans total a l
      have hparts := ih hrest
      rw [htail, List.pairwise_append] at hparts
      obtain ⟨h₁, h₂, hacross⟩ := hparts
      rw [hcons, List.pairwise_append]
      refine ⟨h₁, List.pairwise_cons.2 ⟨fun b hb => ⟨?_, fun _ => ?_⟩, h₂⟩, fun b hb c hc => ?_⟩
      · exact le_of_mem_after trans total hcons b hb
      · have hmem : b ∈ l.mergeSort le := htail ▸ List.mem_append_right l₁ hb
        exact hfirst b ((List.mergeSort_perm l le).mem_iff.1 hmem)
      · rcases List.mem_cons.1 hc with rfl | hc
        · have hnot : le c b = false := by simpa using hbefore b hb
          refine ⟨by simpa [hnot] using total b c, fun hle => ?_⟩
          rw [hnot] at hle
          exact absurd hle Bool.false_ne_true
        · exact hacross b hb c hc

/-- Members with a property are sorted as they are without it. -/
theorem mergeSort_map_val (P : α → Prop) (k : List {a // P a}) :
    (k.map Subtype.val).mergeSort le = (k.mergeSort fun a b => le a.1 b.1).map Subtype.val :=
  (List.map_mergeSort (f := Subtype.val) (r := fun a b : {a // P a} => le a.1 b.1) (s := le)
    fun _ _ _ _ => rfl).symm

section Members

variable (P : α → Prop)
  (trans : ∀ a b c, P a → P b → P c → le a b = true → le b c = true → le a c = true)
  (total : ∀ a b, P a → P b → (le a b || le b a) = true) {l : List α} (hl : ∀ a ∈ l, P a)

include trans total hl

/-- Sorting a part of a list whose members, though perhaps not all values, are in order. -/
theorem filter_mergeSort_of_mem (p : α → Bool) :
    (l.mergeSort le).filter p = (l.filter p).mergeSort le := by
  obtain ⟨k, rfl⟩ : ∃ k : List {a // P a}, k.map Subtype.val = l :=
    ⟨l.attachWith P hl, by rw [List.attachWith_map_subtype_val]⟩
  rw [mergeSort_map_val, List.filter_map, List.filter_map, mergeSort_map_val,
    filter_mergeSort (fun a b c => trans a.1 b.1 c.1 a.2 b.2 c.2) (fun a b => total a.1 b.1 a.2 b.2)]

/-- Stability in a list whose members, though perhaps not all values, are in order. -/
theorem stable_mergeSort_of_mem {R : α → α → Prop} (h : l.Pairwise R) :
    (l.mergeSort le).Pairwise fun a b => le a b = true ∧ (le b a = true → R a b) := by
  obtain ⟨k, rfl⟩ : ∃ k : List {a // P a}, k.map Subtype.val = l :=
    ⟨l.attachWith P hl, by rw [List.attachWith_map_subtype_val]⟩
  rw [mergeSort_map_val, List.pairwise_map]
  exact stable_mergeSort (fun a b c => trans a.1 b.1 c.1 a.2 b.2 c.2)
    (fun a b => total a.1 b.1 a.2 b.2) (List.pairwise_map.1 h)

end Members

end Sorting

/-! ### Ranking -/

/-- Another id before them moves the ids of an order by one place. -/
theorem idxOf_cons_of_ne {a x : Int64} (h : x ≠ a) (order : List Int64) :
    (x :: order).idxOf a = order.idxOf a + 1 := by
  rw [List.idxOf_cons, beq_eq_false_iff_ne.2 h, cond_false]

/-- An order of ids compares two of them as any part of it does that has everything said about both. -/
theorem idxOf_filter_le_iff {p : Int64 → Bool} {a b : Int64} (ha : p a = true) (hb : p b = true)
    (order : List Int64) :
    (order.filter p).idxOf a ≤ (order.filter p).idxOf b ↔ order.idxOf a ≤ order.idxOf b := by
  induction order with
  | nil => rfl
  | cons x order ih =>
      by_cases hxa : x = a
      · subst hxa
        rw [List.filter_cons_of_pos ha, List.idxOf_cons_self, List.idxOf_cons_self]
        exact iff_of_true (Nat.zero_le _) (Nat.zero_le _)
      · by_cases hxb : x = b
        · subst hxb
          rw [List.filter_cons_of_pos hb, List.idxOf_cons_self, List.idxOf_cons_self,
            idxOf_cons_of_ne hxa, idxOf_cons_of_ne hxa]
          exact iff_of_false (by omega) (by omega)
        · by_cases hx : p x = true
          · rw [List.filter_cons_of_pos hx, idxOf_cons_of_ne hxa, idxOf_cons_of_ne hxa,
              idxOf_cons_of_ne hxb, idxOf_cons_of_ne hxb]
            omega
          · rw [List.filter_cons_of_neg hx, idxOf_cons_of_ne hxa, idxOf_cons_of_ne hxb]
            omega

/-- In a list in order, what is said about one id first stands before what is said about another one first
exactly if it does so in the order. -/
theorem idxOf_map_lt_iff {α : Type} {R : α → α → Prop} (asymm : ∀ x y, R x y → ¬ R y x) {l : List α}
    (h : l.Pairwise R) {f : α → Int64} {a b : Int64} (hne : a ≠ b) {x y : α}
    (hx : l.find? (fun z => f z == a) = some x) (hy : l.find? (fun z => f z == b) = some y) :
    (l.map f).idxOf a < (l.map f).idxOf b ↔ R x y := by
  induction l with
  | nil => simp at hx
  | cons z l ih =>
      obtain ⟨hz, hl⟩ := List.pairwise_cons.1 h
      rw [List.find?_cons] at hx hy
      rw [List.map_cons]
      by_cases hza : f z = a
      · have hzb : f z ≠ b := hza ▸ hne
        simp only [hza, beq_self_eq_true, Option.some.injEq] at hx
        simp only [beq_eq_false_iff_ne.2 hzb] at hy
        rw [hza, List.idxOf_cons_self, idxOf_cons_of_ne hne]
        exact iff_of_true (Nat.succ_pos _) (hx ▸ hz y (List.mem_of_find?_eq_some hy))
      · simp only [beq_eq_false_iff_ne.2 hza] at hx
        rw [idxOf_cons_of_ne hza]
        by_cases hzb : f z = b
        · simp only [hzb, beq_self_eq_true, Option.some.injEq] at hy
          rw [hzb, List.idxOf_cons_self]
          exact iff_of_false (Nat.not_lt_zero _)
            (asymm y x (hy ▸ hz x (List.mem_of_find?_eq_some hx)))
        · simp only [beq_eq_false_iff_ne.2 hzb] at hy
          rw [idxOf_cons_of_ne hzb, Nat.add_lt_add_iff_right]
          exact ih hl hx hy

/-- An order puts one id before another one: it mentions it earlier, or it mentions neither of them and the
one is smaller. -/
def RanksBefore (order : List Int64) (a b : Int64) : Prop :=
  order.idxOf a < order.idxOf b ∨ (order.idxOf a = order.idxOf b ∧ a < b)

/-- Of two ids not both rank before the other. -/
theorem RanksBefore.asymm {order : List Int64} {a b : Int64} (h : RanksBefore order a b) :
    ¬ RanksBefore order b a := by
  rintro (hlt | ⟨heq, hlt⟩)
  · rcases h with hlt' | ⟨heq', -⟩ <;> omega
  · rcases h with hlt' | ⟨-, hlt'⟩
    · omega
    · exact Int64.lt_asymm hlt hlt'

namespace IdSet

/-- Ranked ids are distinct. -/
theorem nodup_rank (ids : IdSet) (order : List Int64) : (ids.rank order).Nodup := by
  rw [(perm_rank ids order).nodup_iff]
  exact ids.ascending.imp fun {a b} (hlt : a < b) (heq : a = b) => Int64.lt_irrefl (heq ▸ hlt)

/-- Ranked ids stand as the order puts them. -/
theorem pairwise_rank (ids : IdSet) (order : List Int64) :
    (ids.rank order).Pairwise (RanksBefore order) := by
  have hsorted : (ids.rank order).Pairwise fun a b => decide (order.idxOf a ≤ order.idxOf b) = true
      ∧ (decide (order.idxOf b ≤ order.idxOf a) = true → a < b) :=
    stable_mergeSort
      (fun a b c hab hbc => by
        rw [decide_eq_true_eq] at *
        exact Nat.le_trans hab hbc)
      (fun a b => by simpa using Nat.le_total (order.idxOf a) (order.idxOf b)) ids.ascending
  refine hsorted.imp fun {a b} ⟨hle, htie⟩ => ?_
  rw [decide_eq_true_eq] at hle htie
  rcases Nat.lt_or_eq_of_le hle with hlt | heq
  · exact Or.inl hlt
  · exact Or.inr ⟨heq, htie (Nat.le_of_eq heq.symm)⟩

/-- Of two ids of a set that one is ranked first which the order puts first. -/
theorem idxOf_rank_lt_iff {ids : IdSet} {a b : Int64} (ha : a ∈ ids) (hb : b ∈ ids)
    (order : List Int64) :
    (ids.rank order).idxOf a < (ids.rank order).idxOf b ↔ RanksBefore order a b := by
  by_cases hab : a = b
  · subst hab
    exact iff_of_false (Nat.lt_irrefl _) fun h => h.asymm h
  · have hfind : ∀ {id : Int64}, id ∈ ids → (ids.rank order).find? (fun x => x == id) = some id := by
      intro id hid
      cases hfound : (ids.rank order).find? fun x => x == id with
      | none => exact absurd (List.find?_eq_none.1 hfound id (mem_rank.2 hid)) (by simp)
      | some x =>
          have hx : x = id := by simpa using List.find?_some hfound
          rw [hx]
    have hmap := idxOf_map_lt_iff (fun _ _ => RanksBefore.asymm) (ids.pairwise_rank order)
      (f := fun x => x) hab (hfind ha) (hfind hb)
    rwa [List.map_id'] at hmap

/-- Two orders that compare the members of a set alike rank it alike. -/
theorem rank_congr {ids : IdSet} {order order' : List Int64}
    (h : ∀ a ∈ ids, ∀ b ∈ ids,
      (order.idxOf a ≤ order.idxOf b ↔ order'.idxOf a ≤ order'.idxOf b)) :
    ids.rank order = ids.rank order' := by
  have hmap := List.map_mergeSort (f := id) (l := ids.toList)
    (r := fun a b => decide (order.idxOf a ≤ order.idxOf b))
    (s := fun a b => decide (order'.idxOf a ≤ order'.idxOf b))
    fun a ha b hb => decide_eq_decide.2 (h a ha b hb)
  rwa [List.map_id, List.map_id] at hmap

/-- If the order mentions nothing, a set is ranked by id. -/
theorem rank_nil (ids : IdSet) : ids.rank [] = ids.toList :=
  List.mergeSort_of_pairwise (List.pairwise_of_forall fun _ _ => rfl)

/-- The ranking of a part of a set is that part of the ranking of the set. -/
theorem rank_filter (ids : IdSet) (order : List Int64) (p : Int64 → Bool) :
    (ids.filter p).rank order = (ids.rank order).filter p := by
  refine (filter_mergeSort (fun a b c hab hbc => ?_) (fun a b => ?_) p ids.toList).symm
  · rw [decide_eq_true_eq] at *
    exact Nat.le_trans hab hbc
  · simpa using Nat.le_total (order.idxOf a) (order.idxOf b)

/-- What the order says about ids that are not in the set makes no difference. -/
theorem rank_filter_order {ids : IdSet} {p : Int64 → Bool} (h : ∀ id ∈ ids, p id = true)
    (order : List Int64) : ids.rank (order.filter p) = ids.rank order :=
  rank_congr fun a ha b hb => idxOf_filter_le_iff (h a ha) (h b hb) order

end IdSet

end FeatureQuery
