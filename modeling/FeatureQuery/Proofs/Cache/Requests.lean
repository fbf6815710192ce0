import FeatureQuery.Proofs.Page

/-!
# Requests and the cache

What one request does with a cache. It asks the cache for its key; the page that is found is the answer, and
otherwise a page is computed and stored. Each entry stays as it is, except that the one of the key is replaced
by a new one, or dropped if it is too old and no page is computed. A cache that cannot be read might as well
not be there.

## Main results

* `PageCache.lookup_afterMiss`, `SharedCache.lookup_read`: what happens to the entries.
* `Engine.value_run_of_read`: the course of a request, whatever state the cache is in.
* `Engine.value_run_of_unread`: without a cache that can be read a request is computed.
-/

namespace FeatureQuery

/-! ### Entries of a cache -/

/-- Dropping the entry of a key leaves the entries of the others. -/
theorem PageCache.lookup_without (cache : PageCache) (key other : String) :
    (cache.without key).lookup other = if other = key then none else cache.entries.lookup other := by
  rw [without]
  induction cache.entries with
  | nil => simp
  | cons entry entries ih =>
      obtain ⟨k, cached⟩ := entry
      by_cases hk : k = key
      · rw [List.filter_cons_of_neg (by simp [hk]), ih]
        by_cases hother : other = key
        · rw [if_pos hother, if_pos hother]
        · rw [if_neg hother, if_neg hother, List.lookup_cons, hk, beq_false_of_ne hother]
      · rw [List.filter_cons_of_pos (by simpa using hk), List.lookup_cons, List.lookup_cons, ih]
        by_cases hother : other = key
        · have hne : other ≠ k := fun heq => hk (heq.symm.trans hother)
          rw [if_pos hother, if_pos hother, beq_false_of_ne hne]
        · rw [if_neg hother, if_neg hother]

/-- A key has no page that may be used if its entry is too old or missing. -/
theorem PageCache.find?_eq_none_iff {cache : PageCache} {now : Nat} {key : String} :
    cache.find? now key = none
      ↔ ∀ cached, cache.entries.lookup key = some cached → cache.isFresh now cached = false := by
  rw [find?, Option.map_eq_none_iff, Option.filter_eq_none_iff]
  simp

/-- Asking for a page leaves the lifetime of pages as it is. -/
theorem PageCache.lifetime_afterGet (cache : PageCache) (now : Nat) (key : String) :
    (cache.afterGet now key).lifetime = cache.lifetime := by
  rw [afterGet]
  split <;> rfl

/-- The pages after a request was computed because there was none for its key: its page is stored, if there is
one. -/
def PageCache.afterMiss (cache : PageCache) (now : Nat) (key : String) (result : Except SearchError Page) :
    PageCache :=
  match result with
  | .error _ => cache.afterGet now key
  | .ok page => (cache.afterGet now key).set now key page

/-- So does what follows when no page is found. -/
theorem PageCache.lifetime_afterMiss (cache : PageCache) (now : Nat) (key : String)
    (result : Except SearchError Page) : (cache.afterMiss now key result).lifetime = cache.lifetime := by
  cases result with
  | error e => exact cache.lifetime_afterGet now key
  | ok page => exact cache.lifetime_afterGet now key

/-- After a miss, the key has an entry exactly if a page was computed, and the other keys have theirs. -/
theorem PageCache.lookup_afterMiss {cache : PageCache} {now : Nat} {key : String}
    (hmiss : cache.find? now key = none) (result : Except SearchError Page) (other : String) :
    (cache.afterMiss now key result).entries.lookup other
      = if other = key then result.toOption.map (⟨now, ·⟩) else cache.entries.lookup other := by
  have hget : cache.afterGet now key = { cache with entries := cache.without key } := by
    rw [afterGet, hmiss]
    rfl
  rw [afterMiss.eq_def]
  cases result with
  | error e =>
      dsimp only
      rw [hget, lookup_without]
      rfl
  | ok page =>
      dsimp only
      rw [hget, set, List.lookup_cons, lookup_without]
      dsimp only
      rw [lookup_without]
      by_cases h : other = key
      · simp [h, Except.toOption]
      · simp [h, beq_false_of_ne h]

/-- A cache that can be read is asked for the page of a key. -/
theorem SharedCache.value_read {cache : SharedCache} (hread : cache.readFault = none) (now : Nat)
    (key : String) :
    (cache.read now key).value
      = (cache.pages.find? now key, { cache with pages := cache.pages.afterGet now key }) := by
  rw [read.eq_def]
  split
  · next cause hcause => exact absurd (hread.symm.trans hcause) (by simp)
  · rfl

/-- Asking a cache for a key leaves every entry as it is, except that the one of the key is dropped if there is
no page in it that may be used. -/
theorem SharedCache.lookup_read (cache : SharedCache) (now : Nat) (key other : String) :
    (cache.read now key).value.2.pages.entries.lookup other = cache.pages.entries.lookup other
      ∨ other = key ∧ cache.pages.find? now key = none
        ∧ (cache.read now key).value.2.pages.entries.lookup other = none := by
  cases hread : cache.readFault with
  | some cause => exact Or.inl (by rw [read_of_fault now key hread, Noted.value_warn])
  | none =>
      rw [value_read hread]
      dsimp only
      rw [PageCache.afterGet]
      cases hfind : cache.pages.find? now key with
      | some page => exact Or.inl rfl
      | none =>
          rw [if_neg (by simp), PageCache.lookup_without]
          by_cases hother : other = key
          · exact Or.inr ⟨hother, rfl, if_pos hother⟩
          · exact Or.inl (if_neg hother)

/-! ### Answers of an engine with a cache -/

namespace Engine

/-- The engine without its cache. -/
def uncached (engine : Engine) : Engine :=
  { engine with cache := none }

/-- Without its cache an engine computes each page. -/
theorem value_run_uncached (engine : Engine) (now : Nat) (request : Request) (context : Context) :
    (engine.uncached.run now request context).value.1 = (engine.compute request context).value := by
  rw [run_of_no_cache now request context rfl]
  rfl

variable {engine : Engine} {cache : SharedCache} {request : Request} {context : Context} {now : Nat}

/-- A request asks its cache first. The page that it finds is the answer; if it finds none, its own page is
computed and stored. -/
theorem value_run_of_read (hcache : engine.cacheFor? request = some cache) (now : Nat) (context : Context) :
    (engine.run now request context).value
      = match (cache.read now (engine.keyOf request)).value with
        | (some page, asked) => (.ok page, { engine with cache := some asked })
        | (none, asked) =>
          match (engine.compute request context).value with
          | .error error => (.error error, { engine with cache := some asked })
          | .ok page =>
            (.ok page, { engine with cache := some (asked.write now (engine.keyOf request) page).value }) := by
  rw [run, hcache]
  dsimp only
  rw [Noted.value_bind, runWith, Noted.value_bind]
  rcases (cache.read now (engine.keyOf request)).value with ⟨_ | page, asked⟩
  · dsimp only
    rw [computeInto, Noted.value_bind]
    cases (engine.compute request context).value with
    | error error => rfl
    | ok page => rfl
  · rfl

/-- A request that may be shared is answered with the page of its key if that may be used. -/
theorem value_run_of_find? (hcache : engine.cache = some cache) (hread : cache.readFault = none)
    (hcacheable : isCacheable request.query request.visibility.showUnlisted = true) {page : Page}
    (hfind : cache.pages.find? now (engine.keyOf request) = some page) :
    (engine.run now request context).value = (.ok page, engine) := by
  have hfor : engine.cacheFor? request = some cache := by simp [cacheFor?, hcache, hcacheable]
  have hsame : { cache with pages := cache.pages.afterGet now (engine.keyOf request) } = cache := by
    rw [PageCache.afterGet, hfind]
    rfl
  rw [value_run_of_read hfor, SharedCache.value_read hread, hfind, hsame]
  dsimp only
  rw [← hcache]

/-- Otherwise it is answered as without the cache, and its page is stored. -/
theorem value_run_of_find?_none (hcache : engine.cache = some cache) (hread : cache.readFault = none)
    (hwrite : cache.writeFault = none)
    (hcacheable : isCacheable request.query request.visibility.showUnlisted = true)
    (hfind : cache.pages.find? now (engine.keyOf request) = none) (context : Context) :
    let result := (engine.uncached.run now request context).value.1
    (engine.run now request context).value
      = (result, { engine with
          cache := some { cache with pages := cache.pages.afterMiss now (engine.keyOf request) result } }) := by
  have hfor : engine.cacheFor? request = some cache := by simp [cacheFor?, hcache, hcacheable]
  intro result
  have hresult : result = (engine.compute request context).value := engine.value_run_uncached now request context
  rw [value_run_of_read hfor, SharedCache.value_read hread, hfind, hresult]
  cases (engine.compute request context).value with
  | error e => rfl
  | ok page => simp [SharedCache.write, hwrite, PageCache.afterMiss]

/-- Without a cache that can be read a request is answered with what is computed. -/
theorem value_run_of_unread (hunread : ∀ cache, engine.cache = some cache → cache.readFault ≠ none) (now : Nat)
    (request : Request) (context : Context) :
    (engine.run now request context).value.1 = (engine.compute request context).value := by
  cases hfor : engine.cacheFor? request with
  | none => rw [run_of_cacheFor?_none now context hfor]; rfl
  | some cache =>
      obtain ⟨cause, hcause⟩ := Option.ne_none_iff_exists'.1
        (hunread cache (Option.filter_eq_some_iff.1 hfor).1)
      rw [value_run_of_read hfor, SharedCache.read_of_fault now _ hcause, Noted.value_warn]
      dsimp only
      cases (engine.compute request context).value with
      | error error => rfl
      | ok page => rfl

end Engine

end FeatureQuery
