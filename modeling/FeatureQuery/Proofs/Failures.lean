import FeatureQuery.Proofs.Cache.Sessions

/-!
# Requests that fail

Nothing in a query makes a request fail: what cannot be read or looked up matches nothing. The records of the
features on the page are all that cannot be done without, and a page from the cache needs none. So a request
fails exactly if the features are offline and the cache has no page for it, and always with the same error.
A request that fails has asked the cache for its key and stored nothing.

## Main results

* `Engine.compute_eq_error_iff`: the page of a request cannot be computed exactly while the features are offline.
* `Session.run_fails_iff`: when a request fails, with which error, and what it leaves behind.
-/

namespace FeatureQuery

/-! ### Computing without features -/

/-- The error of a request whose features cannot be loaded. -/
def SearchError.featuresOffline : SearchError :=
  .store (.unavailable Store.backendName "feature collection is offline")

/-- The page of a request cannot be computed exactly while the features are offline. -/
theorem Engine.compute_eq_error_iff {engine : Engine} {request : Request} {context : Context}
    {error : SearchError} :
    (engine.compute request context).value = .error error
      ↔ .feature ∈ engine.store.offline ∧ error = .featuresOffline := by
  by_cases hoffline : .feature ∈ engine.store.offline
  · have hpage : (engine.compute request context).value = .error .featuresOffline := by
      rw [compute, Noted.value_bind, Noted.value_pure, Store.page_of_offline _ _ _ _ hoffline]
      rfl
    rw [hpage, Except.error.injEq, and_iff_right hoffline]
    exact eq_comm
  · rw [engine.value_compute hoffline]
    exact iff_of_false (by simp) fun h => hoffline h.1

/-! ### When requests fail -/

namespace Session

/-- The request is answered from the cache: it may be shared, the cache can be read, and has an entry for the
key that is not too old. -/
def Hits (session : Session) (request : Request) : Prop :=
  isCacheable request.query request.visibility.showUnlisted = true
    ∧ ∃ cache cached, session.engine.cache = some cache ∧ cache.readFault = none
      ∧ cache.pages.entries.lookup (session.engine.keyOf request) = some cached
      ∧ session.now - cached.storedAt < cache.pages.lifetime.nanos

/-- A request that is answered from the cache gets the page there, and the engine stays as it is. -/
theorem Hits.exists_page {session : Session} {request : Request} (h : session.Hits request)
    (context : Context) :
    ∃ page, (session.engine.run session.now request context).value = (.ok page, session.engine) := by
  obtain ⟨hcacheable, cache, cached, hcache, hread, hentry, hfresh⟩ := h
  have hfind : cache.pages.find? session.now (session.engine.keyOf request) = some cached.page := by
    rw [PageCache.find?, hentry]
    simp [PageCache.isFresh, hfresh]
  exact ⟨cached.page, Engine.value_run_of_find? hcache hread hcacheable hfind⟩

/-- A cache that a request may use finds no page for it unless the request is answered from it. -/
theorem read_of_not_hits {session : Session} {request : Request} (h : ¬ session.Hits request)
    {cache : SharedCache} (hcache : session.engine.cacheFor? request = some cache) :
    (cache.read session.now (session.engine.keyOf request)).value.1 = none := by
  obtain ⟨hengine, hcacheable⟩ := Option.filter_eq_some_iff.1 hcache
  cases hread : cache.readFault with
  | some cause => rw [SharedCache.read_of_fault _ _ hread, Noted.value_warn]
  | none =>
      have hfind : cache.pages.find? session.now (session.engine.keyOf request) = none := by
        rw [PageCache.find?_eq_none_iff]
        intro cached hentry
        refine Bool.eq_false_iff.2 fun hfresh => h ?_
        exact ⟨hcacheable, cache, cached, hengine, hread, hentry, of_decide_eq_true hfresh⟩
      rw [SharedCache.value_read hread, hfind]

/-- A request that is not answered from the cache is answered with what is computed. If that is an error, the
engine is left as it is but for a cache that was asked for the key. -/
theorem value_run_of_not_hits {session : Session} {request : Request} (h : ¬ session.Hits request)
    (context : Context) :
    (session.engine.run session.now request context).value.1
        = (session.engine.compute request context).value
      ∧ ∀ error, (session.engine.compute request context).value = .error error →
          (session.engine.run session.now request context).value.2 = session.engine
            ∨ ∃ cache, session.engine.cache = some cache
              ∧ (session.engine.run session.now request context).value.2
                = { session.engine with
                    cache := some (cache.read session.now (session.engine.keyOf request)).value.2 } := by
  cases hcache : session.engine.cacheFor? request with
  | none =>
      rw [Engine.run_of_cacheFor?_none _ _ hcache]
      exact ⟨rfl, fun error _ => Or.inl rfl⟩
  | some cache =>
      have hrun := Engine.value_run_of_read hcache session.now context
      have hmiss := read_of_not_hits h hcache
      obtain ⟨hengine, -⟩ := Option.filter_eq_some_iff.1 hcache
      rcases hread : (cache.read session.now (session.engine.keyOf request)).value with ⟨found, asked⟩
      obtain rfl : found = none := by rwa [hread] at hmiss
      rw [hread] at hrun
      dsimp only at hrun
      cases hcompute : (session.engine.compute request context).value with
      | ok page =>
          rw [hcompute] at hrun
          exact ⟨congrArg Prod.fst hrun, fun error herror => absurd herror (by simp)⟩
      | error error =>
          rw [hcompute] at hrun
          exact ⟨congrArg Prod.fst hrun,
            fun _ _ => Or.inr ⟨cache, hengine, by rw [hread]; exact congrArg Prod.snd hrun⟩⟩

/-- A request fails exactly if it is not answered from the cache while the features are offline. -/
theorem run_eq_error_iff {session : Session} {request : Request} {context : Context} {error : SearchError} :
    (session.engine.run session.now request context).value.1 = .error error
      ↔ ¬ session.Hits request ∧ .feature ∈ session.engine.store.offline ∧ error = .featuresOffline := by
  by_cases hhits : session.Hits request
  · obtain ⟨page, hpage⟩ := hhits.exists_page context
    rw [hpage]
    exact iff_of_false (by simp) fun h => h.1 hhits
  · rw [(value_run_of_not_hits hhits context).1, Engine.compute_eq_error_iff, and_iff_right hhits]

/-- A request that fails leaves every entry of the cache as it is, except that the one of its key is dropped if
there is no page in it that may be used. -/
theorem held?_of_error {session : Session} {request : Request} {context : Context} {error : SearchError}
    (herror : (session.engine.run session.now request context).value.1 = .error error) (key : String) :
    (session.step (.ask request context)).2.held? key = session.held? key
      ∨ key = session.engine.keyOf request ∧ session.usable? key = none
        ∧ (session.step (.ask request context)).2.held? key = none := by
  obtain ⟨hmiss, -, -⟩ := run_eq_error_iff.1 herror
  obtain ⟨hvalue, hleft⟩ := value_run_of_not_hits hmiss context
  rcases hleft error (hvalue ▸ herror) with hsame | ⟨cache, hcache, hasked⟩
  · exact Or.inl (by rw [step_ask_of_engine hsame])
  · have hnext : (session.step (.ask request context)).2.engine.cache
        = some (cache.read session.now (session.engine.keyOf request)).value.2 :=
      congrArg Engine.cache hasked
    rw [held?, hnext, held?, usable?, hcache]
    rcases cache.lookup_read session.now (session.engine.keyOf request) key with hkept | ⟨hkey, hdropped⟩
    · exact Or.inl hkept
    · exact Or.inr ⟨hkey, hkey ▸ hdropped⟩

/-- **Failures.** Whatever the query and the sort order are, and whatever state the other collections and the
cache are in, a request fails exactly if the features are offline and it is not answered from the cache. The
error says that the features are unavailable. The cache then has no entry that it did not have before, and of
those that it had it has lost at most the one of the request's key, if there was no page in it that may be
used. -/
theorem run_fails_iff (session : Session) (request : Request) (context : Context) :
    ((∃ error, (session.engine.run session.now request context).value.1 = .error error)
        ↔ .feature ∈ session.engine.store.offline ∧ ¬ session.Hits request)
      ∧ ∀ error, (session.engine.run session.now request context).value.1 = .error error →
          error = .store (.unavailable Store.backendName "feature collection is offline")
            ∧ (∀ key cached, (session.step (.ask request context)).2.held? key = some cached →
                session.held? key = some cached)
            ∧ ∀ key cached, session.held? key = some cached →
                (session.step (.ask request context)).2.held? key = some cached
                  ∨ key = session.engine.keyOf request ∧ session.usable? key = none := by
  refine ⟨?_, fun error herror => ⟨(run_eq_error_iff.1 herror).2.2, fun key cached hafter => ?_,
    fun key cached hbefore => ?_⟩⟩
  · constructor
    · rintro ⟨error, herror⟩
      obtain ⟨hmiss, hoffline, -⟩ := run_eq_error_iff.1 herror
      exact ⟨hoffline, hmiss⟩
    · rintro ⟨hoffline, hmiss⟩
      exact ⟨_, run_eq_error_iff.2 ⟨hmiss, hoffline, rfl⟩⟩
  · rcases held?_of_error herror key with hkept | ⟨-, -, hdropped⟩
    · rwa [← hkept]
    · rw [hdropped] at hafter
      exact absurd hafter (by simp)
  · rcases held?_of_error herror key with hkept | ⟨hkey, hunusable, -⟩
    · exact Or.inl (hkept.trans hbefore)
    · exact Or.inr ⟨hkey, hunusable⟩

/-- A request for the features of an owner, after which the features go offline and the page gets too old. -/
def askAndLose : List Event :=
  [.ask (.ofQuery "owner=ann") (.anonymousAt .epoch), .change (.offline .feature true), .wait 1000000]

/-- When the request is made again it fails, and the old entry is dropped. -/
theorem run_fails_iff_expired :
    .feature ∈ (ofAnn.after askAndLose).engine.store.offline
      ∧ ¬ (ofAnn.after askAndLose).Hits (.ofQuery "owner=ann")
      ∧ ∃ cached,
        (ofAnn.after askAndLose).held? ((ofAnn.after askAndLose).engine.keyOf (.ofQuery "owner=ann"))
            = some cached
          ∧ (ofAnn.after askAndLose).usable? ((ofAnn.after askAndLose).engine.keyOf (.ofQuery "owner=ann"))
            = none := by
  have herror : ((ofAnn.after askAndLose).engine.run (ofAnn.after askAndLose).now (.ofQuery "owner=ann")
      (.anonymousAt .epoch)).value.1 = .error .featuresOffline := by
    decide +kernel
  have hheld : (ofAnn.after askAndLose).held? ((ofAnn.after askAndLose).engine.keyOf (.ofQuery "owner=ann"))
      = some ⟨0, ⟨[.nameOnly 1 ""], 1⟩⟩ := by
    decide +kernel
  have hdropped : ((ofAnn.after askAndLose).step (.ask (.ofQuery "owner=ann") (.anonymousAt .epoch))).2.held?
      ((ofAnn.after askAndLose).engine.keyOf (.ofQuery "owner=ann")) = none := by
    decide +kernel
  obtain ⟨hwhen, hwhat⟩ := run_fails_iff (ofAnn.after askAndLose) (.ofQuery "owner=ann") (.anonymousAt .epoch)
  obtain ⟨hoffline, hmiss⟩ := hwhen.1 ⟨_, herror⟩
  obtain ⟨-, -, hbefore⟩ := hwhat _ herror
  refine ⟨hoffline, hmiss, _, hheld, ?_⟩
  rcases hbefore _ _ hheld with hkept | ⟨-, hunusable⟩
  · rw [hdropped] at hkept
    exact absurd hkept (by simp)
  · exact hunusable

end Session

end FeatureQuery
