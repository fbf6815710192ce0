import FeatureQuery.Proofs.Failures
import FeatureQuery.Proofs.Offline
import Mathlib.Data.List.Infix

/-!
# Outages and the cache

A page is stored whether or not the lookups for it failed: all that counts is that the features are online. So a
page that was computed while other collections were offline is served from the cache when they are back, for as
long as a page may be used. What an answer in a session tells is what the store had online when the page was
stored last under its key.

## Main results

* `Session.stores_iff`: which pages are stored, and that lookups that fail do not keep them from it.
* `Session.origin_of_answer`: the moment that the page of an answer comes from, and what it shows.
* `Session.outage_is_served`: a page from the time of an outage is served after it.
-/

namespace FeatureQuery

open FeatureQuery.Time (Span)

namespace Session

/-- A request stores its page exactly if it may be shared, there is no page for its key that may be used, and the
features are online. The page is that over the store without the records of the collections that are offline. -/
theorem stores_iff {session : Session} {request : Request} {context : Context} {page : Page} :
    session.Stores (.ask request context) (session.engine.keyOf request) page
      ↔ isCacheable request.query request.visibility.showUnlisted = true
        ∧ session.usable? (session.engine.keyOf request) = none
        ∧ .feature ∉ session.engine.store.offline
        ∧ ((session.engine.onStore session.engine.store.withoutOffline).run session.now request context).value.1
          = .ok page := by
  have hcomputed : session.computed request context = (session.engine.compute request context).value :=
    session.engine.value_run_uncached session.now request context
  constructor
  · rintro ⟨hcacheable, hmissing, hpage⟩
    rw [hcomputed] at hpage
    have hfeatures : .feature ∉ session.engine.store.offline := by
      intro hoffline
      rw [Engine.compute_eq_error_iff.2 ⟨hoffline, rfl⟩] at hpage
      exact absurd hpage (by simp)
    refine ⟨hcacheable, hmissing, hfeatures, ?_⟩
    rw [Engine.value_run_onStore_withoutOffline hfeatures, hpage]
  · rintro ⟨hcacheable, hmissing, hfeatures, hpage⟩
    rw [Engine.value_run_onStore_withoutOffline hfeatures] at hpage
    exact .ask hcacheable hmissing (hcomputed.trans hpage)

/-- The page that a request is answered with, if it may be shared, is the one that was stored last under its key by
the events up to and with the request. It was stored at that moment or less than a lifetime before. -/
theorem exists_lastStored_of_run {start : Session} {lifetime : Span}
    (hcache : start.engine.cache = some (.working lifetime)) {events rest : List Event} {request : Request}
    {context : Context} {reply : Noted (Except SearchError Page)} {page : Page}
    (hreply : (start.run (events ++ .ask request context :: rest))[events.length]? = some (some reply))
    (hok : reply.value = .ok page)
    (hcacheable : isCacheable request.query request.visibility.showUnlisted = true) :
    ∃ moment,
      start.LastStored (events ++ [.ask request context]) ((start.after events).engine.keyOf request)
          ⟨moment, page⟩
        ∧ (moment = (start.after events).now ∨ (start.after events).now - moment < lifetime.nanos) := by
  have hcaches : (start.after events).Caches lifetime := Caches.after ⟨_, hcache, rfl, rfl, rfl⟩ events
  have hvalue := (value_of_reply hreply).trans hok
  rcases hcaches.ask_cases hcacheable context with
    ⟨cached, hcached, hfresh, hanswer⟩ | ⟨hmissing, hanswer, -, -⟩
  · obtain rfl : cached.page = page := by
      rw [hanswer] at hvalue
      exact Except.ok.inj hvalue
    have hnone : ∀ other, ¬ (start.after events).Stores (.ask request context)
        ((start.after events).engine.keyOf request) other := by
      rintro other ⟨-, hmissing, -⟩
      exact absurd hfresh (Nat.not_lt.2 (hcaches.usable?_eq_none_iff.1 hmissing cached hcached))
    obtain ⟨hstored, -⟩ := (held?_after_iff hcache events _ cached).1 ⟨hcached, hfresh⟩
    exact ⟨cached.storedAt, lastStored_concat_iff.2 (Or.inr ⟨hstored, hnone⟩), Or.inr hfresh⟩
  · rw [hanswer] at hvalue
    exact ⟨_, lastStored_concat_iff.2 (Or.inl ⟨.ask hcacheable hmissing hvalue, rfl⟩), Or.inl rfl⟩

/-- **Outages.** In a session that starts with an empty cache, let a request that may be shared be answered with a
page. The page was computed by a request with the same key, at that moment or less than a lifetime before, and no
page was stored under the key since. It was stored whether or not lookups failed: it is the page over the store
without the records of the collections that were offline then. If none of the lookups failed it is the page while
all collections are online. -/
theorem origin_of_answer {start : Session} {lifetime : Span}
    (hcache : start.engine.cache = some (.working lifetime)) {events rest : List Event} {request : Request}
    {context : Context} {reply : Noted (Except SearchError Page)} {page : Page}
    (hreply : (start.run (events ++ .ask request context :: rest))[events.length]? = some (some reply))
    (hok : reply.value = .ok page)
    (hcacheable : isCacheable request.query request.visibility.showUnlisted = true) :
    ∃ earlier asked asker later,
      events ++ [.ask request context] = earlier ++ .ask asked asker :: later
        ∧ ((start.after earlier).now = (start.after events).now
          ∨ (start.after events).now - (start.after earlier).now < lifetime.nanos)
        ∧ (start.after earlier).Stores (.ask asked asker) ((start.after events).engine.keyOf request) page
        ∧ (∀ between other rest, later = between ++ other :: rest →
            ∀ page, ¬ (start.after (earlier ++ .ask asked asker :: between)).Stores other
              ((start.after events).engine.keyOf request) page)
        ∧ (start.after earlier).computed asked asker = .ok page
        ∧ (((start.after earlier).engine.onStore (start.after earlier).engine.store.withoutOffline).run
            (start.after earlier).now asked asker).value.1 = .ok page
        ∧ ((start.after earlier).engine.lookupFails asked asker = false →
            (((start.after earlier).engine.onStore (start.after earlier).engine.store.allOnline).run
              (start.after earlier).now asked asker).value.1 = .ok page) := by
  obtain ⟨moment, ⟨earlier, event, later, hevents, hstores, rfl, hlast⟩, hfresh⟩ :=
    exists_lastStored_of_run hcache hreply hok hcacheable
  generalize hkey : (start.after events).engine.keyOf request = key at hstores hlast ⊢
  cases hstores with
  | @ask asked asker _ hshared hmissing hcomputed =>
      have hstores : (start.after earlier).Stores (.ask asked asker)
          ((start.after earlier).engine.keyOf asked) page := .ask hshared hmissing hcomputed
      obtain ⟨-, -, hfeatures, hwithout⟩ := stores_iff.1 hstores
      refine ⟨earlier, asked, asker, later, hevents, hfresh, hstores, hlast, hcomputed, hwithout, fun hfails => ?_⟩
      rw [Engine.value_run_onStore_allOnline hfeatures hfails, ← hcomputed]
      exact ((start.after earlier).engine.value_run_uncached _ asked asker).symm

/-- A session over a feature that ships in milestone 120, with an empty cache that keeps pages for a
millisecond. -/
def ofShipped : Session :=
  ⟨{ Engine.ofFeatures [] with
      store := .ofRecords [.ownedBy "ann" 1 false] [.shippedIn 1 120] [] []
      cache := some (.working (.ofMillis 1)) }, 0⟩

/-- The request for the features that ship in milestone 120. -/
def in120 : Request :=
  .ofQuery "browsers.chrome.desktop=120"

/-- The stages go offline, the features that ship in milestone 120 are asked for, and the stages come back. -/
def throughOutage : List Event :=
  [.change (.offline .stage true), .ask in120 (.anonymousAt .epoch), .change (.offline .stage false)]

theorem isCacheable_in120 : isCacheable in120.query in120.visibility.showUnlisted = true := by
  decide +kernel

/-- When the request is made again, the answer is an empty page. -/
theorem value_run_throughOutage :
    ((ofShipped.after throughOutage).engine.run (ofShipped.after throughOutage).now in120
      (.anonymousAt .epoch)).value.1 = .ok ⟨[], 0⟩ := by
  decide +kernel

/-- The empty page was stored in the outage. -/
theorem origin_of_answer_outage :
    ∃ earlier asked asker later,
      throughOutage ++ [.ask in120 (.anonymousAt .epoch)] = earlier ++ .ask asked asker :: later
        ∧ (ofShipped.after earlier).Stores (.ask asked asker)
            ((ofShipped.after throughOutage).engine.keyOf in120) ⟨[], 0⟩
        ∧ (((ofShipped.after earlier).engine.onStore (ofShipped.after earlier).engine.store.withoutOffline).run
            (ofShipped.after earlier).now asked asker).value.1 = .ok ⟨[], 0⟩ := by
  have hreply := ofShipped.getElem?_run throughOutage [] (.ask in120 (.anonymousAt .epoch))
  obtain ⟨earlier, asked, asker, later, hevents, -, hstores, -, -, hwithout, -⟩ :=
    origin_of_answer rfl hreply value_run_throughOutage isCacheable_in120
  exact ⟨earlier, asked, asker, later, hevents, hstores, hwithout⟩

/-- **An outage is cached.** The page is stored while the lookup of the term fails. It is served when all
collections are online again, although at no moment of the session at which no lookup failed would it have been
computed. -/
theorem outage_is_served :
    ofShipped.engine.cache = some (.working (.ofMillis 1))
      ∧ isCacheable in120.query in120.visibility.showUnlisted = true
      ∧ (ofShipped.after [.change (.offline .stage true)]).Stores (.ask in120 (.anonymousAt .epoch))
          ((ofShipped.after [.change (.offline .stage true)]).engine.keyOf in120) ⟨[], 0⟩
      ∧ (ofShipped.after [.change (.offline .stage true)]).engine.lookupFails in120 (.anonymousAt .epoch) = true
      ∧ (ofShipped.after throughOutage).engine.store.Online
      ∧ (∃ reply,
          (ofShipped.run (throughOutage ++ [.ask in120 (.anonymousAt .epoch)]))[throughOutage.length]?
              = some (some reply)
            ∧ reply.value = .ok ⟨[], 0⟩)
      ∧ ∀ earlier later, throughOutage = earlier ++ later →
          (ofShipped.after earlier).engine.lookupFails in120 (.anonymousAt .epoch) = false →
            (ofShipped.after earlier).computed in120 (.anonymousAt .epoch) ≠ .ok ⟨[], 0⟩ := by
  have hstores : (ofShipped.after [.change (.offline .stage true)]).Stores (.ask in120 (.anonymousAt .epoch))
      ((ofShipped.after [.change (.offline .stage true)]).engine.keyOf in120) ⟨[], 0⟩ :=
    .ask isCacheable_in120 (by decide +kernel) (by decide +kernel)
  have honline : (ofShipped.after throughOutage).engine.store.Online := by
    have hoffline : (ofShipped.after throughOutage).engine.store.offline = [] := by decide +kernel
    intro collection
    rw [hoffline]
    exact List.not_mem_nil
  have hmoments : ∀ earlier ∈ throughOutage.inits,
      (ofShipped.after earlier).engine.lookupFails in120 (.anonymousAt .epoch) = false →
        (ofShipped.after earlier).computed in120 (.anonymousAt .epoch) ≠ .ok ⟨[], 0⟩ := by
    decide +kernel
  refine ⟨rfl, isCacheable_in120, hstores, by decide +kernel, honline,
    ⟨_, ofShipped.getElem?_run throughOutage [] _, value_run_throughOutage⟩, ?_⟩
  intro earlier later hevents
  exact hmoments earlier ((List.mem_inits _ _).2 ⟨later, hevents.symm⟩)

end Session

end FeatureQuery
