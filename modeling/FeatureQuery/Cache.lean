import FeatureQuery.Page
import FeatureQuery.Time.Span
import FeatureQuery.Warning

/-!
# Page cache

Pages are kept by key together with the moment they were stored at, and may be used for a lifetime that
all of them share. An entry that is too old stays until it is asked for or replaced. Moments are
nanoseconds on a clock that never goes back.

A shared cache may also fail to be read or written; the failure is noted and the request goes on without
it.

## Main results

* `PageCache.find?_set`: a page is found by its key at the moment it is stored, unless the lifetime is zero.
* `PageCache.contains_eq`: a key is contained when getting it would find a page.
* `SharedCache.read_of_fault`: a cache that cannot be read finds nothing.
-/

namespace FeatureQuery

open FeatureQuery.Time (Span)

/-- A stored page. -/
structure CachedPage where
  /-- When the page was stored. -/
  storedAt : Nat
  page : Page
  deriving DecidableEq

/-- Pages by key. -/
structure PageCache where
  lifetime : Span
  entries : List (String × CachedPage)

namespace PageCache

/-- A cache without pages. -/
def empty (lifetime : Span) : PageCache := ⟨lifetime, []⟩

/-- The number of entries, usable or not. -/
def size (cache : PageCache) : Nat :=
  cache.entries.length

/-- The entries without that of a key. -/
def without (cache : PageCache) (key : String) : List (String × CachedPage) :=
  cache.entries.filter (·.1 != key)

/-- A stored page may be used at a moment. -/
def isFresh (cache : PageCache) (now : Nat) (cached : CachedPage) : Bool :=
  now - cached.storedAt < cache.lifetime.nanos

/-- The page of a key that may be used at a moment. -/
def find? (cache : PageCache) (now : Nat) (key : String) : Option Page :=
  ((cache.entries.lookup key).filter (cache.isFresh now)).map (·.page)

/-- A key has a page that may be used at a moment. -/
def contains (cache : PageCache) (now : Nat) (key : String) : Bool :=
  (cache.entries.lookup key).any (cache.isFresh now)

/-- The cache after a key was asked for: an entry that is too old is dropped. -/
def afterGet (cache : PageCache) (now : Nat) (key : String) : PageCache :=
  if (cache.find? now key).isSome then cache else { cache with entries := cache.without key }

/-- The cache with a page stored under a key. -/
def set (cache : PageCache) (now : Nat) (key : String) (page : Page) : PageCache :=
  { cache with entries := (key, ⟨now, page⟩) :: cache.without key }

/-- A page that was just stored is found, if pages have a lifetime at all. -/
theorem find?_set {cache : PageCache} {now : Nat} {key : String} {page : Page}
    (h : 0 < cache.lifetime.nanos) : (cache.set now key page).find? now key = some page := by
  simp [find?, set, Option.filter, isFresh, h]

/-- A key is contained exactly if a page is found under it. -/
theorem contains_eq (cache : PageCache) (now : Nat) (key : String) :
    cache.contains now key = (cache.find? now key).isSome := by
  unfold contains find?
  cases cache.entries.lookup key with
  | none => rfl
  | some cached => by_cases h : cache.isFresh now cached = true <;> simp [h]

end PageCache

/-! ### Shared caches -/

/-- A cache that requests share. -/
structure SharedCache where
  name : String
  pages : PageCache
  /-- Why reading fails, if it does. -/
  readFault : Option CacheError
  /-- Why writing fails, if it does. -/
  writeFault : Option CacheError

namespace SharedCache

/-- A cache that works. -/
def working (lifetime : Span) : SharedCache := ⟨"memory", .empty lifetime, none, none⟩

/-- Asks for the page of a key at a moment. -/
def read (cache : SharedCache) (now : Nat) (key : String) : Noted (Option Page × SharedCache) :=
  match cache.readFault with
  | some cause => .warn (.cacheReadFailed cache.name cause) (none, cache)
  | none => pure (cache.pages.find? now key, { cache with pages := cache.pages.afterGet now key })

/-- Stores a page under a key at a moment. -/
def write (cache : SharedCache) (now : Nat) (key : String) (page : Page) : Noted SharedCache :=
  match cache.writeFault with
  | some cause => .warn (.cacheWriteFailed cache.name cause) cache
  | none => pure { cache with pages := cache.pages.set now key page }

/-- Where reading fails, nothing is found, and the failure is noted. -/
theorem read_of_fault {cache : SharedCache} {cause : CacheError} (now : Nat) (key : String)
    (h : cache.readFault = some cause) :
    cache.read now key = .warn (.cacheReadFailed cache.name cause) (none, cache) := by
  simp [read, h]

end SharedCache

end FeatureQuery
