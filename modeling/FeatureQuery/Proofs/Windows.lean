import FeatureQuery.Proofs.Page
import Mathlib.Data.List.Perm.Subperm

/-!
# What windows leave of a page

A window is cut out of the features that are shown, which do not depend on it: which features they are, their
order and their number are settled before. Pages of one size that follow each other thus show every match
once, in order.

## Main results

* `Window.slice_eq`: a window passes over the first items and keeps at most so many of the rest.
* `Window.flatMap_pages`: the windows of one size that follow each other show the whole list.
* `Store.pageOf_eq`: the page of a window is cut out of the page of the open window.
* `Engine.run_windows`: how the answers to a request with different windows are related.
-/

namespace FeatureQuery

/-! ### Windows of a list -/

namespace Window

variable {α : Type}

/-- **Windows.** A window passes over the first items of a list and keeps at most so many of the rest, also where
its end is out of the range of sizes. -/
theorem slice_eq (window : Window) {items : List α} (h : items.length < UInt64.size) :
    window.slice items
      = match window.num with
        | none => items.drop window.start
        | some num => (items.drop window.start).take num := by
  have hdrop : items.drop (min window.start items.length) = items.drop window.start := by
    rcases Nat.le_total window.start items.length with hle | hle
    · rw [Nat.min_eq_left hle]
    · rw [Nat.min_eq_right hle, List.drop_length, List.drop_of_length_le hle]
  obtain ⟨start, num⟩ := window
  cases num with
  | none =>
      have hlength : (items.drop start).length ≤ items.length - min start items.length := by
        rw [List.length_drop]
        omega
      rw [slice, List.extract_eq_take_drop, beginIn, hdrop]
      exact List.take_of_length_le hlength
  | some num =>
      -- A sum out of range ends the window at the largest size, and no list in memory is longer.
      have htaken : min (endIn ⟨start, some num⟩ items.length - min start items.length)
          (items.drop start).length = min num (items.drop start).length := by
        rw [List.length_drop, endIn]
        dsimp only [addSizes, beginIn]
        omega
      rw [slice, List.extract_eq_take_drop, beginIn, hdrop]
      exact List.take_eq_take_iff.2 htaken

/-- It makes no difference whether items are changed before or after a window is cut out. -/
theorem slice_map {β : Type} (window : Window) (f : α → β) (items : List α) :
    window.slice (items.map f) = (window.slice items).map f := by
  rw [slice, slice, List.length_map, List.extract_eq_take_drop, List.extract_eq_take_drop, List.map_take,
    List.map_drop]

/-- Items of one count after another show the beginning of a list. -/
theorem flatMap_take_drop (size count : Nat) (items : List α) :
    ((List.range count).flatMap fun i => (items.drop (i * size)).take size) = items.take (count * size) := by
  induction count with
  | zero => simp
  | succ count ih =>
      rw [List.range_succ, List.flatMap_append, ih, List.flatMap_singleton, Nat.succ_mul, List.take_add]

/-- **Paging.** As many windows of one size as it takes, one after another, show the whole list. -/
theorem flatMap_pages {size count : Nat} {items : List α} (h : items.length < UInt64.size)
    (hcount : items.length ≤ count * size) :
    ((List.range count).flatMap fun i => slice ⟨i * size, some size⟩ items) = items := by
  have hslice : ∀ i : Nat, slice ⟨i * size, some size⟩ items = (items.drop (i * size)).take size :=
    fun i => slice_eq ⟨i * size, some size⟩ h
  simp only [hslice]
  rw [flatMap_take_drop, List.take_of_length_le hcount]

end Window

/-! ### Windows of a page -/

namespace Store

variable (store : Store) (shown : IdSet) (order : List Int64) (window : Window) (namesOnly : Bool)

/-- **Pages.** The page of a window has the total of the page of the open window and is cut out of its entries. -/
theorem pageOf_eq :
    store.pageOf shown order window namesOnly
      = ⟨window.slice (store.pageOf shown order .all namesOnly).entries,
          (store.pageOf shown order .all namesOnly).total⟩ := by
  rw [pageOf, pageOf]
  simp only [Window.slice_all, Window.slice_map]

/-- A page has no more entries than there are features. -/
theorem length_entries_pageOf_all :
    (store.pageOf shown order .all namesOnly).entries.length ≤ store.features.length := by
  have hnodup : ((shown.rank order).filterMap store.find?).Nodup := by
    refine (shown.nodup_rank order).filterMap fun a b feature ha hb => ?_
    exact (mem_of_find? ha).2.symm.trans (mem_of_find? hb).2
  have hsub : (shown.rank order).filterMap store.find? ⊆ store.features := by
    intro feature hfeature
    obtain ⟨id, -, hfound⟩ := List.mem_filterMap.1 hfeature
    exact (mem_of_find? hfound).1
  rw [pageOf, Window.slice_all, List.length_map]
  exact (hnodup.subperm hsub).length_le

/-- The length of a list of features that a store has is a size, so it is the total of the page. -/
theorem toNat_total_pageOf_all (hsize : store.features.length < UInt64.size) :
    (store.pageOf shown order .all namesOnly).total.toNat
      = (store.pageOf shown order .all namesOnly).entries.length := by
  have hlength := store.length_entries_pageOf_all shown order namesOnly
  have htotal : (store.pageOf shown order .all namesOnly).total
      = .ofNat (store.pageOf shown order .all namesOnly).entries.length := by
    rw [pageOf, Window.slice_all, List.length_map]
  rw [htotal]
  exact UInt64.toNat_ofNat_of_lt' (Nat.lt_of_le_of_lt hlength hsize)

end Store

/-! ### Requests with different windows -/

namespace Engine

/-- Without a cache, a request with another window and another form of entries is answered with a page of the
same features in the same order. -/
theorem value_run_within (engine : Engine) (online : engine.store.Online) (hcache : engine.cache = none)
    (now : Nat) (request : Request) (context : Context) (window : Window) (namesOnly : Bool) :
    (engine.run now { request with window := window, namesOnly := namesOnly } context).value.1
      = .ok (engine.store.pageOf (engine.shownIds request context)
          (engine.store.totalOrder (engine.specOf request)).value window namesOnly) :=
  engine.value_run online hcache now { request with window := window, namesOnly := namesOnly } context

/-- **Windows only cut.** The number of features is a size, as that of any list in memory. A request with the
open window is answered with a page whose total is the number of its entries. With any window, it is answered
with a page of the same total, whose entries are those with the first ones passed over and at most so many kept;
the window begins and ends within them. The pages of one size, one after another, show all entries once, in
order. And with entries in the other form, ids, order and total stay the same. -/
theorem run_windows {engine : Engine} (online : engine.store.Online) (hcache : engine.cache = none)
    (hsize : engine.store.features.length < UInt64.size) (now : Nat) (request : Request)
    (context : Context) :
    ∃ whole, (engine.run now { request with window := .all } context).value.1 = .ok whole
      ∧ whole.total.toNat = whole.entries.length
      ∧ (∀ window : Window, ∃ page,
          (engine.run now { request with window := window } context).value.1 = .ok page
            ∧ page.total = whole.total
            ∧ page.entries = (match window.num with
                | none => whole.entries.drop window.start
                | some num => (whole.entries.drop window.start).take num)
            ∧ window.beginIn whole.entries.length ≤ window.endIn whole.entries.length
            ∧ window.endIn whole.entries.length ≤ whole.entries.length)
      ∧ (∀ size : Nat, ∃ pages : Nat → Page,
          (∀ i, (engine.run now { request with window := ⟨i * size, some size⟩ } context).value.1
            = .ok (pages i))
          ∧ ∀ count, whole.entries.length ≤ count * size →
              ((List.range count).flatMap fun i => (pages i).entries) = whole.entries)
      ∧ ∀ window : Window, ∃ full named,
          (engine.run now { request with window := window, namesOnly := false } context).value.1 = .ok full
            ∧ (engine.run now { request with window := window, namesOnly := true } context).value.1
                = .ok named
            ∧ full.ids = named.ids ∧ full.total = named.total := by
  have hrun := engine.value_run_within online hcache now request context
  have hlength := engine.store.length_entries_pageOf_all (engine.shownIds request context)
    (engine.store.totalOrder (engine.specOf request)).value request.namesOnly
  have hsmall := Nat.lt_of_le_of_lt hlength hsize
  refine ⟨_, hrun .all request.namesOnly, Store.toNat_total_pageOf_all _ _ _ _ hsize, fun window => ?_,
    fun size => ?_, fun window => ?_⟩
  · refine ⟨_, hrun window request.namesOnly, ?_, ?_, window.beginIn_le_endIn hsmall, window.endIn_le _⟩
    · rw [Store.pageOf_eq]
    · rw [Store.pageOf_eq, window.slice_eq hsmall]
  · refine ⟨_, fun i => hrun ⟨i * size, some size⟩ request.namesOnly, fun count hcount => ?_⟩
    simp only [Store.pageOf_eq _ _ _ ⟨_ * size, some size⟩]
    exact Window.flatMap_pages hsmall hcount
  · refine ⟨_, _, hrun window false, hrun window true, ?_, rfl⟩
    rw [Store.ids_pageOf_window, Store.ids_pageOf_window]

/-- Three features of one owner. -/
def ofOwner : Engine :=
  ofFeatures [.ownedBy "ann" 1 false, .ownedBy "ann" 2 false, .ownedBy "ann" 3 false]

/-- A limit may be as large as sizes are, wherever the window begins, and two pages of at most two entries show
all three features. -/
theorem run_windows_largest :
    ofOwner.store.Online ∧ ofOwner.cache = none ∧ ofOwner.store.features.length < UInt64.size
      ∧ ∃ whole largest first second,
          (ofOwner.run 0 (.ofQuery "owner=ann") (.anonymousAt .epoch)).value.1 = .ok whole
            ∧ (ofOwner.run 0 { Request.ofQuery "owner=ann" with
                  window := ⟨1, some (UInt64.size - 1)⟩ } (.anonymousAt .epoch)).value.1 = .ok largest
            ∧ largest.entries = whole.entries.drop 1
            ∧ (ofOwner.run 0 { Request.ofQuery "owner=ann" with
                  window := ⟨0 * 2, some 2⟩ } (.anonymousAt .epoch)).value.1 = .ok first
            ∧ (ofOwner.run 0 { Request.ofQuery "owner=ann" with
                  window := ⟨1 * 2, some 2⟩ } (.anonymousAt .epoch)).value.1 = .ok second
            ∧ first.entries ++ second.entries = whole.entries := by
  have online : ofOwner.store.Online := Store.online_ofRecords _ _ _ _
  have hsize : ofOwner.store.features.length < UInt64.size := by decide +kernel
  obtain ⟨whole, hwhole, -, hwindows, hpages, -⟩ :=
    run_windows online rfl hsize 0 (.ofQuery "owner=ann") (.anonymousAt .epoch)
  obtain ⟨largest, hlargest, -, hentries, -⟩ := hwindows ⟨1, some (UInt64.size - 1)⟩
  obtain ⟨pages, hpage, hall⟩ := hpages 2
  have hlength : whole.entries.length ≤ 3 := by
    have hrun := ofOwner.value_run online rfl 0 (.ofQuery "owner=ann") (.anonymousAt .epoch)
    obtain rfl := Except.ok.inj (hwhole.symm.trans hrun)
    exact Store.length_entries_pageOf_all ..
  refine ⟨online, rfl, hsize, whole, largest, pages 0, pages 1, hwhole, hlargest, ?_, hpage 0, hpage 1, ?_⟩
  · have hlarge : 3 ≤ UInt64.size - 1 := by decide
    have hrest : (whole.entries.drop 1).length ≤ UInt64.size - 1 := by
      rw [List.length_drop]
      omega
    exact hentries.trans (List.take_of_length_le hrest)
  · have hboth := hall 2 (by omega)
    simpa [List.range_succ] using hboth

end Engine

end FeatureQuery
