import FeatureQuery.Proofs.Ranking
import Mathlib.Data.List.Basic

/-!
# Ranking by positions

The ranking of a set comes from positions. Each member gets the position where the order first mentions it, or one
beyond all of these if the order does not mention it, and the members are sorted by position and then by id. No two
members agree in both, so every sort of them gives the same list, be it stable or not.

## Main results

* `positionIn_lt_iff`: positions compare as the first mentions do.
* `IdSet.map_snd_eq_rank`: the members in the order of their positions are the ranking.
* `IdSet.rank_by_first_mention`: what is ranked before what.
-/

namespace FeatureQuery

/-! ### Positions -/

/-- The position that an order first records for an id; an id that it does not mention gets the last one. -/
def positionIn (last : Nat) (order : List Int64) (id : Int64) : Nat :=
  (order.zipIdx.lookup id).getD last

/-- An id is found with its first position, if it is in the order. -/
theorem lookup_zipIdx (id : Int64) (order : List Int64) (start : Nat) :
    (order.zipIdx start).lookup id = if id ∈ order then some (start + order.idxOf id) else none := by
  induction order generalizing start with
  | nil => rfl
  | cons x order ih =>
      rw [List.zipIdx_cons, List.lookup_cons]
      by_cases hx : x = id
      · subst hx
        simp
      · rw [beq_eq_false_iff_ne.2 (Ne.symm hx), ih, idxOf_cons_of_ne hx]
        simp only [List.mem_cons, Ne.symm hx, false_or]
        split
        · rw [Nat.add_assoc, Nat.add_comm 1]
        · rfl

/-- An id in the order has its first position. -/
theorem positionIn_of_mem {order : List Int64} {id : Int64} (h : id ∈ order) (last : Nat) :
    positionIn last order id = order.idxOf id := by
  rw [positionIn, lookup_zipIdx, if_pos h, Option.getD_some, Nat.zero_add]

/-- Every other id has the position after the last. -/
theorem positionIn_of_not_mem {order : List Int64} {id : Int64} (h : id ∉ order) (last : Nat) :
    positionIn last order id = last := by
  rw [positionIn, lookup_zipIdx, if_neg h, Option.getD_none]

/-- Positions compare as the first mentions do, if the last position lies beyond the order. -/
theorem positionIn_lt_iff {last : Nat} {order : List Int64} (hlast : order.length ≤ last) {a b : Int64} :
    positionIn last order a < positionIn last order b ↔ order.idxOf a < order.idxOf b := by
  by_cases ha : a ∈ order
  · have hlt := List.idxOf_lt_length_of_mem ha
    by_cases hb : b ∈ order
    · rw [positionIn_of_mem ha, positionIn_of_mem hb]
    · rw [positionIn_of_mem ha, positionIn_of_not_mem hb, List.idxOf_eq_length hb]
      exact iff_of_true (Nat.lt_of_lt_of_le hlt hlast) hlt
  · by_cases hb : b ∈ order
    · have hlt := List.idxOf_lt_length_of_mem hb
      rw [positionIn_of_not_mem ha, positionIn_of_mem hb, List.idxOf_eq_length ha]
      exact iff_of_false (by omega) (by omega)
    · rw [positionIn_of_not_mem ha, positionIn_of_not_mem hb, List.idxOf_eq_length ha, List.idxOf_eq_length hb]
      exact iff_of_false (Nat.lt_irrefl _) (Nat.lt_irrefl _)

/-! ### Which of two ids goes first -/

section Before

variable {order : List Int64} {a b : Int64}

/-- An id that the order mentions goes before one that it does not. -/
theorem ranksBefore_of_mem_of_not_mem (ha : a ∈ order) (hb : b ∉ order) : RanksBefore order a b := by
  left
  rw [List.idxOf_eq_length hb]
  exact List.idxOf_lt_length_of_mem ha

/-- Of two ids that the order mentions that one goes first which it mentions first. -/
theorem ranksBefore_iff_of_mem (ha : a ∈ order) : RanksBefore order a b ↔ order.idxOf a < order.idxOf b := by
  refine ⟨fun h => h.resolve_right ?_, Or.inl⟩
  rintro ⟨hsame, hlt⟩
  have heq : a = b := (List.idxOf_inj ha).1 hsame
  exact Int64.lt_irrefl (heq ▸ hlt)

/-- Of two ids that the order does not mention the smaller one goes first. -/
theorem ranksBefore_iff_of_not_mem (ha : a ∉ order) (hb : b ∉ order) : RanksBefore order a b ↔ a < b := by
  rw [RanksBefore, List.idxOf_eq_length ha, List.idxOf_eq_length hb]
  simp

end Before

namespace IdSet

/-- **Positions.** The members of a set in the order of their positions, and of their ids where these agree, are its
ranking. The list may come from any sort. -/
theorem map_snd_eq_rank {ids : IdSet} {order : List Int64} {last : Nat} (hlast : order.length ≤ last)
    {pairs : List (Nat × Int64)} (hperm : pairs.Perm (ids.toList.map fun id => (positionIn last order id, id)))
    (hsorted : pairs.Pairwise fun p q => p.1 < q.1 ∨ p.1 = q.1 ∧ p.2 ≤ q.2) :
    pairs.map (·.2) = ids.rank order := by
  have hids : (pairs.map (·.2)).Perm (ids.rank order) := by
    have hmap := hperm.map (·.2)
    rw [List.map_map, show (fun p : Nat × Int64 => p.2) ∘ (fun id => (positionIn last order id, id)) = id from rfl,
      List.map_id] at hmap
    exact hmap.trans (perm_rank ids order).symm
  have hposition : ∀ p ∈ pairs, p.1 = positionIn last order p.2 := by
    intro p hp
    obtain ⟨id, -, rfl⟩ := List.mem_map.1 (hperm.mem_iff.1 hp)
    rfl
  have hdistinct : pairs.Pairwise fun p q => p.2 ≠ q.2 :=
    List.pairwise_map.1 (hids.nodup_iff.2 (ids.nodup_rank order))
  refine hids.eq_of_pairwise (fun a b _ _ hab hba => absurd hba hab.asymm) ?_ (ids.pairwise_rank order)
  rw [List.pairwise_map]
  refine (hsorted.and hdistinct).imp_of_mem fun {p q} hp hq ⟨hle, hne⟩ => ?_
  rw [hposition p hp, hposition q hq, positionIn_lt_iff hlast] at hle
  rcases hle with hlt | ⟨heq, hle⟩
  · exact Or.inl hlt
  · have hab := positionIn_lt_iff hlast (a := p.2) (b := q.2)
    have hba := positionIn_lt_iff hlast (a := q.2) (b := p.2)
    exact Or.inr ⟨by omega, Int64.lt_of_le_of_ne hle hne⟩

/-- What an order says of ids once more makes no difference. -/
theorem rank_append_of_subset (ids : IdSet) {order repeats : List Int64} (h : repeats ⊆ order) :
    ids.rank (order ++ repeats) = ids.rank order := by
  have hidx : ∀ id, (order ++ repeats).idxOf id
      = if id ∈ order then order.idxOf id else order.length + repeats.length := by
    intro id
    rw [List.idxOf_append]
    split
    · rfl
    · next hid => rw [List.idxOf_eq_length fun hmem => hid (h hmem), Nat.add_comm]
  refine rank_congr fun a _ b _ => ?_
  have hlt : ∀ {id}, id ∈ order → order.idxOf id < order.length := List.idxOf_lt_length_of_mem
  rw [hidx, hidx]
  by_cases ha : a ∈ order
  · by_cases hb : b ∈ order
    · rw [if_pos ha, if_pos hb]
    · rw [if_pos ha, if_neg hb, List.idxOf_eq_length hb]
      have := hlt ha
      omega
  · by_cases hb : b ∈ order
    · rw [if_neg ha, if_pos hb, List.idxOf_eq_length ha]
      have := hlt hb
      omega
    · rw [if_neg ha, if_neg hb, List.idxOf_eq_length ha, List.idxOf_eq_length hb]
      exact iff_of_true (Nat.le_refl _) (Nat.le_refl _)

/-- A part of a set is ranked as the set is. -/
theorem rank_of_subset {ids part : IdSet} (h : ∀ id ∈ part, id ∈ ids) (order : List Int64) :
    part.rank order = (ids.rank order).filter fun id => decide (id ∈ part) := by
  have hpart : ids.filter (fun id => decide (id ∈ part)) = part :=
    ext_mem fun id => by simpa using h id
  rw [← rank_filter, hpart]

/-- **Ranking.** The ranking of a set has each of its members once. A member that the order mentions stands before
one that it does not mention; two that it mentions stand as it first mentions them, and two that it does not mention
in ascending order. A part of the set is ranked as the set is, and what the order says once more of ids that it has
mentioned makes no difference. -/
theorem rank_by_first_mention (ids : IdSet) (order : List Int64) :
    (ids.rank order).Nodup ∧ (ids.rank order).Perm ids.toList
      ∧ (∀ a ∈ ids, ∀ b ∈ ids,
        (a ∈ order → b ∉ order → (ids.rank order).idxOf a < (ids.rank order).idxOf b)
        ∧ (a ∈ order → b ∈ order →
          ((ids.rank order).idxOf a < (ids.rank order).idxOf b ↔ order.idxOf a < order.idxOf b))
        ∧ (a ∉ order → b ∉ order → ((ids.rank order).idxOf a < (ids.rank order).idxOf b ↔ a < b)))
      ∧ (∀ part : IdSet, (∀ id ∈ part, id ∈ ids) →
        part.rank order = (ids.rank order).filter fun id => decide (id ∈ part))
      ∧ ∀ repeats ⊆ order, ids.rank (order ++ repeats) = ids.rank order := by
  refine ⟨ids.nodup_rank order, perm_rank ids order, fun a ha b hb => ?_,
    fun part hpart => rank_of_subset hpart order, fun repeats hrepeats => ids.rank_append_of_subset hrepeats⟩
  rw [idxOf_rank_lt_iff ha hb]
  exact ⟨ranksBefore_of_mem_of_not_mem, fun hmem _ => ranksBefore_iff_of_mem hmem, ranksBefore_iff_of_not_mem⟩

/-- An order that mentions an id twice, and another one that is not in the set. -/
theorem rank_by_first_mention_repeated :
    ((3 : Int64) ∈ IdSet.ofList [1, 2, 3, 4] ∧ (2 : Int64) ∈ IdSet.ofList [1, 2, 3, 4]
        ∧ ∀ id ∈ IdSet.ofList [2, 3], id ∈ IdSet.ofList [1, 2, 3, 4])
      ∧ ((IdSet.ofList [1, 2, 3, 4]).rank [3, 9, 1, 3]).idxOf 3
        < ((IdSet.ofList [1, 2, 3, 4]).rank [3, 9, 1, 3]).idxOf 2
      ∧ (IdSet.ofList [2, 3]).rank [3, 9, 1, 3]
        = (((IdSet.ofList [1, 2, 3, 4]).rank [3, 9, 1, 3]).filter fun id => decide (id ∈ IdSet.ofList [2, 3]))
      ∧ (IdSet.ofList [1, 2, 3, 4]).rank ([3, 9, 1] ++ [3]) = (IdSet.ofList [1, 2, 3, 4]).rank [3, 9, 1] := by
  obtain ⟨-, -, hbefore, hpart, -⟩ := rank_by_first_mention (IdSet.ofList [1, 2, 3, 4]) [3, 9, 1, 3]
  obtain ⟨-, -, -, -, hrepeats⟩ := rank_by_first_mention (IdSet.ofList [1, 2, 3, 4]) [3, 9, 1]
  have hsubset : ∀ id ∈ IdSet.ofList [2, 3], id ∈ IdSet.ofList [1, 2, 3, 4] := by
    intro id hid
    simp only [mem_ofList, List.mem_cons, List.not_mem_nil, or_false] at hid ⊢
    rcases hid with rfl | rfl
    · exact Or.inr (Or.inl rfl)
    · exact Or.inr (Or.inr (Or.inl rfl))
  obtain ⟨hfirst, -⟩ := hbefore 3 (by decide) 2 (by decide)
  exact ⟨⟨by decide, by decide, hsubset⟩, hfirst (by decide) (by decide), hpart _ hsubset, hrepeats [3] (by decide)⟩

example : (IdSet.ofList [1, 2, 3, 4]).rank [3, 9, 1, 3] = [3, 1, 2, 4] := by
  cbv

end IdSet

end FeatureQuery
