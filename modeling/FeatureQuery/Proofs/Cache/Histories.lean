import FeatureQuery.Proofs.Cache.Requests
import Mathlib.Data.Finset.Card
import Mathlib.Data.List.Induction

/-!
# Histories of a cache

Pages are set, keys are asked for, and time passes. Entries that are too old are not dropped when they become
so, but only when their key is asked for, and until then they may be replaced. What the cache replies does not
show any of this: whatever happened to it, it has the page that was set last under a key, if that is not too
old. Only its size does.

The histories are read by a temporal operator: something happened, and since then something else did not.

## Main results

* `since_concat_iff`: what one more event does to something that has happened.
* `TimedCache.lookup_after_iff`: the entries of a cache after a history.
* `TimedCache.replies_after`: what a cache replies after a history, and how many entries it has.
-/

namespace FeatureQuery

open FeatureQuery.Time (Span)

/-! ### Something that has happened -/

section Since

variable {α : Type}

/-- Something happened, and since then it has not been undone. Both are told of an event and those before it. -/
def Since (happens undone : List α → α → Prop) (events : List α) : Prop :=
  ∃ earlier event later, events = earlier ++ event :: later ∧ happens earlier event
    ∧ ∀ between other rest, later = between ++ other :: rest → ¬ undone (earlier ++ event :: between) other

/-- Nothing has happened where there are no events. -/
theorem not_since_nil (happens undone : List α → α → Prop) : ¬ Since happens undone [] := by
  rintro ⟨earlier, event, later, heq, -⟩
  exact absurd heq.symm (by simp)

/-- An event of a history with one more at its end is either that one or an event of the history. -/
theorem concat_eq_append_cons_iff {events earlier later : List α} {last event : α} :
    events ++ [last] = earlier ++ event :: later
      ↔ (events = earlier ∧ last = event ∧ later = [])
        ∨ ∃ between, later = between ++ [last] ∧ events = earlier ++ event :: between := by
  constructor
  · intro h
    rcases List.eq_nil_or_concat later with rfl | ⟨between, other, rfl⟩
    · obtain ⟨hearlier, hlast⟩ := List.append_inj' h rfl
      exact Or.inl ⟨hearlier, List.singleton_inj.1 hlast, rfl⟩
    · rw [List.concat_eq_append, ← List.cons_append, ← List.append_assoc] at h
      obtain ⟨hevents, hlast⟩ := List.append_inj' h rfl
      obtain rfl := List.singleton_inj.1 hlast
      exact Or.inr ⟨between, List.concat_eq_append, hevents⟩
  · rintro (⟨rfl, rfl, rfl⟩ | ⟨between, rfl, rfl⟩)
    · rfl
    · simp

/-- Something has happened after one more event if it happens there, or if it had happened before and is not
undone there. -/
theorem since_concat_iff {happens undone : List α → α → Prop} {events : List α} {event : α} :
    Since happens undone (events ++ [event])
      ↔ happens events event ∨ Since happens undone events ∧ ¬ undone events event := by
  constructor
  · rintro ⟨earlier, first, later, heq, hhappens, hnone⟩
    rcases concat_eq_append_cons_iff.1 heq with ⟨rfl, rfl, rfl⟩ | ⟨between, rfl, rfl⟩
    · exact Or.inl hhappens
    · refine Or.inr ⟨⟨earlier, first, between, rfl, hhappens, ?_⟩, hnone between event [] rfl⟩
      rintro before other rest rfl
      exact hnone before other (rest ++ [event]) (by simp)
  · rintro (hhappens | ⟨⟨earlier, first, later, rfl, hhappens, hnone⟩, hlast⟩)
    · exact ⟨events, event, [], rfl, hhappens, by simp⟩
    · refine ⟨earlier, first, later ++ [event], by simp, hhappens, ?_⟩
      intro between other rest heq
      rcases concat_eq_append_cons_iff.1 heq with ⟨rfl, rfl, rfl⟩ | ⟨before, rfl, rfl⟩
      · exact hlast
      · exact hnone between other before rfl

end Since

/-! ### Entries of a cache -/

namespace PageCache

variable {cache : PageCache} {now : Nat} {key other : String} {cached : CachedPage}

/-- After a key was asked for, the entries are those from before, except that of the key if it is too old. -/
theorem lookup_afterGet_iff :
    (cache.afterGet now key).entries.lookup other = some cached
      ↔ cache.entries.lookup other = some cached
        ∧ ¬ (other = key ∧ cache.lifetime.nanos ≤ now - cached.storedAt) := by
  rw [afterGet]
  cases hfind : cache.find? now key with
  | some page =>
      rw [Option.isSome_some, if_pos rfl, iff_self_and]
      rintro hentry ⟨rfl, hold⟩
      have hnone : cache.find? now other = none := by
        rw [find?_eq_none_iff]
        intro entry hlookup
        obtain rfl := Option.some.inj (hentry.symm.trans hlookup)
        exact decide_eq_false (Nat.not_lt.2 hold)
      exact absurd (hfind.symm.trans hnone) (by simp)
  | none =>
      rw [Option.isSome_none, if_neg Bool.false_ne_true, lookup_without]
      by_cases hother : other = key
      · rw [if_pos hother]
        refine iff_of_false (by simp) ?_
        rintro ⟨hentry, hfresh⟩
        have hold := find?_eq_none_iff.1 hfind cached (hother ▸ hentry)
        exact hfresh ⟨hother, Nat.not_lt.1 (of_decide_eq_false hold)⟩
      · rw [if_neg hother, and_iff_left fun h => hother h.1]

/-- After a page was set, its key has it, and the other entries are as before. -/
theorem lookup_set_iff {page : Page} :
    (cache.set now key page).entries.lookup other = some cached
      ↔ (key = other ∧ page = cached.page ∧ cached.storedAt = now)
        ∨ cache.entries.lookup other = some cached ∧ key ≠ other := by
  rw [set, List.lookup_cons, lookup_without]
  by_cases hother : other = key
  · subst hother
    obtain ⟨storedAt, stored⟩ := cached
    simp [eq_comm, and_comm]
  · simp [hother, Ne.symm hother, beq_false_of_ne hother]

/-- A page is found exactly if it is in the entry of the key and not too old. -/
theorem find?_eq_some_iff {page : Page} :
    cache.find? now key = some page
      ↔ ∃ cached, cache.entries.lookup key = some cached ∧ now - cached.storedAt < cache.lifetime.nanos
        ∧ cached.page = page := by
  rw [find?, Option.map_eq_some_iff]
  simp only [Option.filter_eq_some_iff, isFresh, decide_eq_true_eq, and_assoc]

/-- The keys that have an entry. -/
def keys (cache : PageCache) : List String :=
  cache.entries.map (·.1)

/-- A cache has as many keys as pages. -/
theorem length_keys (cache : PageCache) : cache.keys.length = cache.size :=
  List.length_map _

/-- The keys of a cache are those that it holds a page under. -/
theorem mem_keys_iff : key ∈ cache.keys ↔ ∃ cached, cache.entries.lookup key = some cached := by
  rw [← Option.isSome_iff_exists, List.lookup_isSome_iff, keys, List.mem_map]
  exact exists_congr fun entry => and_congr_right fun _ => eq_comm.trans beq_iff_eq.symm

/-- The entry of a key that is dropped leaves the other keys. -/
theorem keys_without_sublist (cache : PageCache) (key : String) :
    ((cache.without key).map (·.1)).Sublist cache.keys :=
  List.Sublist.map _ List.filter_sublist

/-- No key is held twice after a page is asked for. -/
theorem nodup_keys_afterGet (h : cache.keys.Nodup) (now : Nat) (key : String) :
    (cache.afterGet now key).keys.Nodup := by
  rw [afterGet]
  split
  · exact h
  · exact h.sublist (cache.keys_without_sublist key)

/-- No key is held twice after a page is stored. -/
theorem nodup_keys_set (h : cache.keys.Nodup) (now : Nat) (key : String) (page : Page) :
    (cache.set now key page).keys.Nodup := by
  refine List.nodup_cons.2 ⟨?_, h.sublist (cache.keys_without_sublist key)⟩
  simp [without]

end PageCache

/-! ### Events -/

/-- Something that happens to a cache. -/
inductive CacheEvent where
  | set (key : String) (page : Page)
  | get (key : String)
  | contains (key : String)
  /-- So many nanoseconds pass. -/
  | wait (nanos : Nat)

/-- The time that passes with an event. -/
def CacheEvent.nanos : CacheEvent → Nat
  | wait nanos => nanos
  | _ => 0

/-- What a cache replies to an event. -/
inductive CacheReply where
  | done
  | found (page : Option Page)
  | holds (answer : Bool)

/-- A cache and the time on its clock. -/
structure TimedCache where
  pages : PageCache
  now : Nat

namespace TimedCache

/-- The reply of a cache to an event, and the cache after it. -/
def step (cache : TimedCache) : CacheEvent → CacheReply × TimedCache
  | .set key page => (.done, { cache with pages := cache.pages.set cache.now key page })
  | .get key =>
    (.found (cache.pages.find? cache.now key), { cache with pages := cache.pages.afterGet cache.now key })
  | .contains key => (.holds (cache.pages.contains cache.now key), cache)
  | .wait nanos => (.done, { cache with now := cache.now + nanos })

/-- A cache that was empty at some moment, after a history. -/
def after (lifetime : Span) (start : Nat) (events : List CacheEvent) : TimedCache :=
  events.foldl (fun cache event => (cache.step event).2) ⟨.empty lifetime, start⟩

variable {lifetime : Span} {start : Nat} {events : List CacheEvent} {event : CacheEvent} {key : String}
  {cached : CachedPage}

/-- After one more event the cache is what this event makes of it. -/
theorem after_concat :
    after lifetime start (events ++ [event]) = ((after lifetime start events).step event).2 :=
  List.foldl_append

/-! ### Histories -/

/-- The time on the clock after a history. -/
def clock (start : Nat) (events : List CacheEvent) : Nat :=
  events.foldl (fun now event => now + event.nanos) start

/-- One more event takes its time. -/
theorem clock_concat (start : Nat) (events : List CacheEvent) (event : CacheEvent) :
    clock start (events ++ [event]) = clock start events + event.nanos :=
  List.foldl_append

/-- The last page that was set under a key, and when. -/
def LastSet (start : Nat) (events : List CacheEvent) (key : String) (cached : CachedPage) : Prop :=
  Since (fun before event => event = .set key cached.page ∧ cached.storedAt = clock start before)
    (fun _ event => ∃ page, event = .set key page) events

/-- The last page that was set under a key is too old. -/
def Expired (lifetime : Span) (start : Nat) (events : List CacheEvent) (key : String) : Prop :=
  ∃ cached, LastSet start events key cached ∧ lifetime.nanos ≤ clock start events - cached.storedAt

/-- A key was set, and since then it was not asked for when its page was too old. -/
def Held (lifetime : Span) (start : Nat) (events : List CacheEvent) (key : String) : Prop :=
  Since (fun _ event => ∃ page, event = .set key page)
    (fun before event => event = .get key ∧ Expired lifetime start before key) events

/-- What was last stored under a key, after one more event. -/
theorem lastSet_concat_iff :
    LastSet start (events ++ [event]) key cached
      ↔ (event = .set key cached.page ∧ cached.storedAt = clock start events)
        ∨ LastSet start events key cached ∧ ¬ ∃ page, event = .set key page :=
  since_concat_iff

/-- Which keys are held, after one more event. -/
theorem held_concat_iff :
    Held lifetime start (events ++ [event]) key
      ↔ (∃ page, event = .set key page)
        ∨ Held lifetime start events key ∧ ¬ (event = .get key ∧ Expired lifetime start events key) :=
  since_concat_iff

/-- A key has one last page at most. -/
theorem LastSet.unique {cached' : CachedPage} (h : LastSet start events key cached)
    (h' : LastSet start events key cached') : cached = cached' := by
  induction events using List.reverseRecOn with
  | nil => exact absurd h (not_since_nil _ _)
  | append_singleton events event ih =>
      rw [lastSet_concat_iff] at h h'
      rcases h with ⟨hset, hmoment⟩ | ⟨h, hnone⟩
      · rcases h' with ⟨hset', hmoment'⟩ | ⟨-, hnone⟩
        · obtain ⟨storedAt, page⟩ := cached
          obtain ⟨storedAt', page'⟩ := cached'
          cases hset
          cases hset'
          exact congrArg (CachedPage.mk · page) (hmoment.trans hmoment'.symm)
        · exact absurd ⟨_, hset⟩ hnone
      · rcases h' with ⟨hset, -⟩ | ⟨h', -⟩
        · exact absurd ⟨_, hset⟩ hnone
        · exact ih h h'

/-- The last page of a key is too old if any is. -/
theorem LastSet.expired_iff (h : LastSet start events key cached) :
    Expired lifetime start events key ↔ lifetime.nanos ≤ clock start events - cached.storedAt := by
  constructor
  · rintro ⟨other, hother, hold⟩
    rwa [h.unique hother]
  · exact fun hold => ⟨cached, h, hold⟩

/-- A key that was set has a last page. -/
theorem Held.exists_lastSet (h : Held lifetime start events key) : ∃ cached, LastSet start events key cached := by
  induction events using List.reverseRecOn with
  | nil => exact absurd h (not_since_nil _ _)
  | append_singleton events event ih =>
      simp only [lastSet_concat_iff]
      by_cases hset : ∃ page, event = .set key page
      · obtain ⟨page, rfl⟩ := hset
        exact ⟨⟨clock start events, page⟩, Or.inl ⟨rfl, rfl⟩⟩
      · obtain ⟨h, -⟩ := (held_concat_iff.1 h).resolve_left hset
        obtain ⟨cached, hlast⟩ := ih h
        exact ⟨cached, Or.inr ⟨hlast, hset⟩⟩

/-- The last page of a key is still there if it is not too old: it was not too old before either. -/
theorem LastSet.held (h : LastSet start events key cached)
    (hfresh : clock start events - cached.storedAt < lifetime.nanos) : Held lifetime start events key := by
  induction events using List.reverseRecOn with
  | nil => exact absurd h (not_since_nil _ _)
  | append_singleton events event ih =>
      rw [held_concat_iff]
      rcases lastSet_concat_iff.1 h with ⟨hset, -⟩ | ⟨hlast, -⟩
      · exact Or.inl ⟨_, hset⟩
      · -- The page was younger before, so asking for it then did not drop it.
        rw [clock_concat] at hfresh
        have hbefore : clock start events - cached.storedAt < lifetime.nanos := by omega
        refine Or.inr ⟨ih hlast hbefore, fun hremoved => ?_⟩
        exact absurd (hlast.expired_iff.1 hremoved.2) (Nat.not_le.2 hbefore)

/-! ### The cache after a history -/

/-- A history changes neither the lifetime of a cache nor how its clock goes. -/
theorem clock_after (lifetime : Span) (start : Nat) (events : List CacheEvent) :
    (after lifetime start events).now = clock start events
      ∧ (after lifetime start events).pages.lifetime = lifetime := by
  induction events using List.reverseRecOn with
  | nil => exact ⟨rfl, rfl⟩
  | append_singleton events event ih =>
      obtain ⟨hnow, hlifetime⟩ := ih
      rw [after_concat, clock_concat, ← hnow]
      cases event with
      | set key page => exact ⟨rfl, hlifetime⟩
      | get key => exact ⟨rfl, (PageCache.lifetime_afterGet _ _ _).trans hlifetime⟩
      | contains key => exact ⟨rfl, hlifetime⟩
      | wait nanos => exact ⟨rfl, hlifetime⟩

/-- No key has two entries. -/
theorem nodup_keys_after : (after lifetime start events).pages.keys.Nodup := by
  induction events using List.reverseRecOn with
  | nil => exact List.nodup_nil
  | append_singleton events event ih =>
      rw [after_concat]
      cases event with
      | set key page => exact PageCache.nodup_keys_set ih _ key page
      | get key => exact PageCache.nodup_keys_afterGet ih _ key
      | contains key => exact ih
      | wait nanos => exact ih

/-- **Step.** What an event does to the entries: a page that is set replaces that of its key, and an entry is
dropped if its key is asked for when it is too old. -/
theorem lookup_step_iff (cache : TimedCache) :
    (cache.step event).2.pages.entries.lookup key = some cached
      ↔ (event = .set key cached.page ∧ cached.storedAt = cache.now)
        ∨ (cache.pages.entries.lookup key = some cached
            ∧ ¬ (event = .get key ∧ cache.pages.lifetime.nanos ≤ cache.now - cached.storedAt))
          ∧ ¬ ∃ page, event = .set key page := by
  cases event with
  | set other page =>
      refine PageCache.lookup_set_iff.trans ?_
      simp [and_assoc]
  | get other =>
      refine PageCache.lookup_afterGet_iff.trans ?_
      simp [eq_comm]
  | contains other => simp [step]
  | wait nanos => simp [step]

/-- **Run.** Whatever happened to a cache, its entries are the pages that were set last, except those that were
asked for when they were too old. -/
theorem lookup_after_iff :
    (after lifetime start events).pages.entries.lookup key = some cached
      ↔ LastSet start events key cached ∧ Held lifetime start events key := by
  induction events using List.reverseRecOn with
  | nil => exact iff_of_false (by simp [after, PageCache.empty]) fun h => not_since_nil _ _ h.1
  | append_singleton events event ih =>
      obtain ⟨hnow, hlifetime⟩ := clock_after lifetime start events
      rw [after_concat, lookup_step_iff, ih, hnow, hlifetime, lastSet_concat_iff, held_concat_iff]
      by_cases hset : ∃ page, event = .set key page
      · simp [hset]
      · -- The event sets no page under the key, so the last one is as old as its entry, if there is one.
        have hother : ¬ (event = .set key cached.page ∧ cached.storedAt = clock start events) :=
          fun h => hset ⟨_, h.1⟩
        rw [or_iff_right hother, or_iff_right hother, or_iff_right hset, and_iff_left hset, and_iff_left hset,
          and_assoc]
        refine and_congr_right fun hlast => ?_
        rw [hlast.expired_iff]

/-- The keys that have an entry are those that were set and not dropped since. -/
theorem mem_keys_after_iff : key ∈ (after lifetime start events).pages.keys ↔ Held lifetime start events key := by
  rw [PageCache.mem_keys_iff]
  simp only [lookup_after_iff]
  constructor
  · rintro ⟨cached, -, hheld⟩
    exact hheld
  · intro hheld
    obtain ⟨cached, hlast⟩ := hheld.exists_lastSet
    exact ⟨cached, hlast, hheld⟩

/-- **A map with a lifetime.** Whatever happened to a cache that was empty at first, asking for a key gives the
page that was set last, if that is not too old; the key is contained exactly then; asking drops the entry of the
key, if that is too old, and no other; and the cache has as many entries as there are keys that were set and not
dropped since. -/
theorem replies_after (lifetime : Span) (start : Nat) (events : List CacheEvent) :
    (∀ key page, ((after lifetime start events).step (.get key)).1 = .found (some page)
        ↔ ∃ cached, LastSet start events key cached
          ∧ clock start events - cached.storedAt < lifetime.nanos ∧ cached.page = page)
      ∧ (∀ key, ((after lifetime start events).step (.contains key)).1 = .holds true
        ↔ ∃ page, ((after lifetime start events).step (.get key)).1 = .found (some page))
      ∧ (∀ key other cached,
        ((after lifetime start events).step (.get key)).2.pages.entries.lookup other = some cached
          ↔ (after lifetime start events).pages.entries.lookup other = some cached
            ∧ ¬ (other = key ∧ lifetime.nanos ≤ clock start events - cached.storedAt))
      ∧ ∃ keys : Finset String, (∀ key, key ∈ keys ↔ Held lifetime start events key)
        ∧ (after lifetime start events).pages.size = keys.card := by
  obtain ⟨hnow, hlifetime⟩ := clock_after lifetime start events
  refine ⟨fun key page => ?found, fun key => ?contains, fun key other cached => ?entries, ?size⟩
  case found =>
    refine (CacheReply.found.injEq _ _).to_iff.trans (PageCache.find?_eq_some_iff.trans ?_)
    refine exists_congr fun cached => ?_
    rw [hnow, hlifetime, lookup_after_iff]
    constructor
    · rintro ⟨⟨hlast, -⟩, hfresh, hpage⟩
      exact ⟨hlast, hfresh, hpage⟩
    · rintro ⟨hlast, hfresh, hpage⟩
      exact ⟨⟨hlast, hlast.held hfresh⟩, hfresh, hpage⟩
  case contains =>
    simp only [step, PageCache.contains_eq, CacheReply.holds.injEq, CacheReply.found.injEq,
      Option.isSome_iff_exists]
  case entries =>
    refine PageCache.lookup_afterGet_iff.trans ?_
    rw [hnow, hlifetime]
  case size =>
    refine ⟨(after lifetime start events).pages.keys.toFinset,
      fun key => List.mem_toFinset.trans mem_keys_after_iff, ?_⟩
    rw [List.toFinset_card_of_nodup nodup_keys_after, PageCache.length_keys]

/-- A page that is as old as the lifetime is not found any more, but its entry stays until its key is asked
for. -/
example :
    let events := [.set "k" ⟨[], 0⟩, .wait 1000000, .contains "k"]
    (after (.ofMillis 1) 0 events).pages.contains 1000000 "k" = false
      ∧ (after (.ofMillis 1) 0 events).pages.size = 1
      ∧ (after (.ofMillis 1) 0 (events ++ [.get "k"])).pages.size = 0 := by
  decide +kernel

end TimedCache

end FeatureQuery
