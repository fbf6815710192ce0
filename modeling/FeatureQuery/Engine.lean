import FeatureQuery.Cache
import FeatureQuery.Cache.Key
import FeatureQuery.Combination
import FeatureQuery.Config
import FeatureQuery.Ranking
import FeatureQuery.Request
import FeatureQuery.Resolution

/-!
# Engine

Answers requests: the terms of the query are resolved and combined, the matches ranked, and the page of
those that are visible is cut out. Where there is a cache, a request that may be shared is answered from it
if possible, and its page is stored otherwise.

## Main results

* `run_of_no_cache`: without a cache every request is computed.
* `run_of_private`: a request that may not be shared leaves the cache alone.
-/

namespace FeatureQuery

/-- All that requests are answered with. -/
structure Engine where
  store : Store
  permissions : Permissions
  config : Config
  cache : Option SharedCache

namespace Engine

/-- What a request is sorted by. -/
def specOf (engine : Engine) (request : Request) : SortSpec :=
  request.sort.getD engine.config.defaultSpec

/-- What terms are resolved with. -/
def settingOf (engine : Engine) (context : Context) : Setting :=
  ⟨engine.store, engine.permissions, engine.config.recentReviewDays, context⟩

/-- The caller sees unlisted features without asking for them. -/
def callerSeesUnlisted (engine : Engine) (context : Context) : Bool :=
  context.caller.any engine.permissions.seesUnlisted

/-- What a request shows. -/
def visibilityOf (engine : Engine) (request : Request) (context : Context) : Visibility :=
  { request.visibility with
    showUnlisted := request.visibility.showUnlisted || engine.callerSeesUnlisted context }

/-- The features that match a request, in order. -/
def matchesOf (engine : Engine) (request : Request) (context : Context) : Noted (List Int64) := do
  let query := Query.read request.query
  let answers ← (engine.settingOf context).answers query
  let order ← engine.store.totalOrder (engine.specOf request)
  let ids ← engine.store.combine query answers
  return ids.rank order

/-- The page of a request, without the cache. -/
def compute (engine : Engine) (request : Request) (context : Context) :
    Noted (Except SearchError Page) := do
  let ids ← engine.matchesOf request context
  return (engine.store.page ids (engine.visibilityOf request context) request.window
    request.namesOnly).mapError .store

/-- The key of a request. -/
def keyOf (engine : Engine) (request : Request) : String :=
  cacheKey engine.config.cacheKeyPrefix request.query (engine.specOf request) request.visibility
    request.window request.namesOnly

/-- The cache that a request may use. -/
def cacheFor? (engine : Engine) (request : Request) : Option SharedCache :=
  engine.cache.filter fun _ => isCacheable request.query request.visibility.showUnlisted

/-- The page of a request, computed and stored in a cache. A failure is not stored. -/
def computeInto (engine : Engine) (cache : SharedCache) (now : Nat) (request : Request)
    (context : Context) : Noted (Except SearchError Page × SharedCache) := do
  match ← engine.compute request context with
  | .error e => return (.error e, cache)
  | .ok page => return (.ok page, ← cache.write now (engine.keyOf request) page)

/-- The page of a request from a cache, computed if it is not there. -/
def runWith (engine : Engine) (cache : SharedCache) (now : Nat) (request : Request)
    (context : Context) : Noted (Except SearchError Page × SharedCache) := do
  match ← cache.read now (engine.keyOf request) with
  | (some page, cache) => return (.ok page, cache)
  | (none, cache) => engine.computeInto cache now request context

/-- Answers a request at a moment; the cache of the engine may change. -/
def run (engine : Engine) (now : Nat) (request : Request) (context : Context) :
    Noted (Except SearchError Page × Engine) := do
  match engine.cacheFor? request with
  | none => return (← engine.compute request context, engine)
  | some cache =>
    let (result, cache) ← engine.runWith cache now request context
    return (result, { engine with cache := some cache })

/-- A request without a cache is computed, and leaves the engine as it is. -/
theorem run_of_cacheFor?_none {engine : Engine} {request : Request} (now : Nat) (context : Context)
    (h : engine.cacheFor? request = none) :
    engine.run now request context
      = (fun result => (result, engine)) <$> engine.compute request context := by
  simp [run, h]

/-- So is every request to an engine that has none. -/
theorem run_of_no_cache {engine : Engine} (now : Nat) (request : Request) (context : Context)
    (h : engine.cache = none) :
    engine.run now request context
      = (fun result => (result, engine)) <$> engine.compute request context :=
  run_of_cacheFor?_none now context (by simp [cacheFor?, h])

/-- So is a request whose page may not be shared. -/
theorem run_of_private {engine : Engine} {request : Request} (now : Nat) (context : Context)
    (h : isCacheable request.query request.visibility.showUnlisted = false) :
    engine.run now request context
      = (fun result => (result, engine)) <$> engine.compute request context :=
  run_of_cacheFor?_none now context (by simp [cacheFor?, h])

end Engine

end FeatureQuery
