import FeatureQuery.Proofs.Cache.Histories
import FeatureQuery.Session

/-!
# Cached answers over sessions

In a session records are added, collections go offline and come back, time passes, and requests are answered,
some of them from the cache. Whatever happened before, the cache holds, of the pages that may still be used,
exactly those that were stored last under their keys. This is kept by every event, since an event either stores
a page or leaves each entry as it is, except that one that is too old may be dropped.

## Main results

* `Session.Caches.held?_step`: what one event does to an entry of the cache.
* `Session.held?_after_iff`: the entries that may be used are the pages that were stored last.
* `Session.answer_of_run`: what the requests of a session are answered with.
-/

namespace FeatureQuery

open FeatureQuery.Time (Span)

/-! ### Events -/

namespace Session

/-- The session after a sequence of events. -/
def after (session : Session) (events : List Event) : Session :=
  events.foldl (fun session event => (session.step event).2) session

/-- What a request is answered with if nothing is cached. -/
def computed (session : Session) (request : Request) (context : Context) : Except SearchError Page :=
  (session.engine.uncached.run session.now request context).value.1

/-- The entry that the cache holds under a key, which may be too old to be used. -/
def held? (session : Session) (key : String) : Option CachedPage :=
  session.engine.cache.bind fun cache => cache.pages.entries.lookup key

/-- The page that the cache has for a key. -/
def usable? (session : Session) (key : String) : Option Page :=
  session.engine.cache.bind fun cache => cache.pages.find? session.now key

/-- The event stores a page under a key: it is a request that may be shared, there is no page for its key that
may be used, and its own page is computed. -/
inductive Stores (session : Session) : Event → String → Page → Prop
  | ask {request : Request} {context : Context} {page : Page}
      (hcacheable : isCacheable request.query request.visibility.showUnlisted = true)
      (hmissing : session.usable? (session.engine.keyOf request) = none)
      (hcomputed : session.computed request context = .ok page) :
      Stores session (.ask request context) (session.engine.keyOf request) page

/-- An event stores one page at most. -/
theorem Stores.unique {session : Session} {event : Event} {key : String} {page page' : Page}
    (h : session.Stores event key page) (h' : session.Stores event key page') : page = page' := by
  cases h with
  | ask _ _ hcomputed =>
      cases h' with
      | ask _ _ hcomputed' => exact Except.ok.inj (hcomputed.symm.trans hcomputed')

/-- The events of two parts happen one part after the other. -/
theorem after_append (session : Session) (events more : List Event) :
    session.after (events ++ more) = (session.after events).after more :=
  List.foldl_append

/-- After one more event the session is what this event makes of it. -/
theorem after_concat (session : Session) (events : List Event) (event : Event) :
    session.after (events ++ [event]) = ((session.after events).step event).2 :=
  session.after_append events [event]

/-- Within a run an event has the reply that it has after the events before it. -/
theorem getElem?_run (session : Session) (events rest : List Event) (event : Event) :
    (session.run (events ++ event :: rest))[events.length]? = some ((session.after events).step event).1 := by
  induction events generalizing session with
  | nil => rfl
  | cons first events ih => exact ih (session.step first).2

/-- The reply to a request is what the engine answers after the events before it. -/
theorem value_of_reply {start : Session} {events rest : List Event} {request : Request} {context : Context}
    {reply : Noted (Except SearchError Page)}
    (hreply : (start.run (events ++ .ask request context :: rest))[events.length]? = some (some reply)) :
    ((start.after events).engine.run (start.after events).now request context).value.1 = reply.value := by
  rw [getElem?_run, Option.some.injEq] at hreply
  rw [← Option.some.inj hreply]
  rfl

/-- A request that does not change the engine leaves the session as it is. -/
theorem step_ask_of_engine {session : Session} {request : Request} {context : Context}
    (hengine : (session.engine.run session.now request context).value.2 = session.engine) :
    (session.step (.ask request context)).2 = session := by
  rw [step]
  dsimp only
  rw [hengine]

/-- A request that may not be shared is answered as without the cache and leaves the session as it is. -/
theorem ask_of_private (session : Session) {request : Request} (context : Context)
    (hprivate : isCacheable request.query request.visibility.showUnlisted = false) :
    (session.engine.run session.now request context).value.1 = session.computed request context
      ∧ (session.step (.ask request context)).2 = session := by
  have hvalue := congrArg Noted.value (session.engine.run_of_private session.now context hprivate)
  have hcomputed := congrArg Noted.value
    (session.engine.uncached.run_of_private session.now context hprivate)
  refine ⟨?_, step_ask_of_engine (congrArg Prod.snd hvalue)⟩
  rw [computed, hvalue, hcomputed]
  rfl

/-- The session's cache works and keeps pages for a lifetime. -/
def Caches (session : Session) (lifetime : Span) : Prop :=
  ∃ cache, session.engine.cache = some cache ∧ cache.readFault = none ∧ cache.writeFault = none
    ∧ cache.pages.lifetime = lifetime

namespace Caches

variable {session : Session} {lifetime : Span}

/-- There is no page for a key that may be used if its entry is too old or missing. -/
theorem usable?_eq_none_iff (h : session.Caches lifetime) {key : String} :
    session.usable? key = none
      ↔ ∀ cached, session.held? key = some cached → lifetime.nanos ≤ session.now - cached.storedAt := by
  obtain ⟨cache, hcache, -, -, rfl⟩ := h
  rw [usable?, held?, hcache, Option.bind_some, Option.bind_some, PageCache.find?_eq_none_iff]
  simp only [PageCache.isFresh, decide_eq_false_iff_not, Nat.not_lt]

/-- The page for a key that may be used is that of its entry. -/
theorem held?_of_usable? (h : session.Caches lifetime) {key : String} {page : Page}
    (husable : session.usable? key = some page) :
    ∃ cached, session.held? key = some cached ∧ cached.page = page
      ∧ session.now - cached.storedAt < lifetime.nanos := by
  obtain ⟨cache, hcache, -, -, rfl⟩ := h
  rw [usable?, hcache, Option.bind_some, PageCache.find?_eq_some_iff] at husable
  obtain ⟨cached, hcached, hfresh, hpage⟩ := husable
  refine ⟨cached, ?_, hpage, hfresh⟩
  rw [held?, hcache, Option.bind_some, hcached]

variable {request : Request}

/-- A request that may be shared is either answered from the cache, which stays as it is, or computed; its page
is then stored, or the old entry is dropped if there is no page. -/
theorem ask_cases (h : session.Caches lifetime)
    (hcacheable : isCacheable request.query request.visibility.showUnlisted = true) (context : Context) :
    (∃ cached, session.held? (session.engine.keyOf request) = some cached
        ∧ session.now - cached.storedAt < lifetime.nanos
        ∧ (session.engine.run session.now request context).value = (.ok cached.page, session.engine))
      ∨ session.usable? (session.engine.keyOf request) = none
        ∧ (session.engine.run session.now request context).value.1 = session.computed request context
        ∧ (session.step (.ask request context)).2.Caches lifetime
        ∧ ∀ key, (session.step (.ask request context)).2.held? key
            = if key = session.engine.keyOf request then
                (session.computed request context).toOption.map (⟨session.now, ·⟩)
              else session.held? key := by
  obtain ⟨cache, hcache, hread, hwrite, hlifetime⟩ := id h
  cases husable : session.usable? (session.engine.keyOf request) with
  | some page =>
      obtain ⟨cached, hentry, rfl, hfresh⟩ := h.held?_of_usable? husable
      rw [usable?, hcache, Option.bind_some] at husable
      exact Or.inl ⟨cached, hentry, hfresh, Engine.value_run_of_find? hcache hread hcacheable husable⟩
  | none =>
      rw [usable?, hcache, Option.bind_some] at husable
      have hvalue := Engine.value_run_of_find?_none hcache hread hwrite hcacheable husable context
      have hnext : (session.step (.ask request context)).2.engine.cache = some { cache with
          pages := cache.pages.afterMiss session.now (session.engine.keyOf request)
            (session.computed request context) } :=
        congrArg (fun value => value.2.cache) hvalue
      refine Or.inr ⟨rfl, congrArg (fun value => value.1) hvalue, ⟨_, hnext, hread, hwrite, ?_⟩, ?_⟩
      · rw [PageCache.lifetime_afterMiss, hlifetime]
      · intro key
        rw [held?, hnext, Option.bind_some, PageCache.lookup_afterMiss husable, held?, hcache,
          Option.bind_some]

/-- **Step.** An event either stores a page under a key, or leaves its entry as it is, or drops the entry
because it is too old. -/
theorem held?_step (h : session.Caches lifetime) (event : Event) (key : String) :
    (∃ page, session.Stores event key page
        ∧ (session.step event).2.held? key = some ⟨session.now, page⟩)
      ∨ (∀ page, ¬ session.Stores event key page)
        ∧ ((session.step event).2.held? key = session.held? key
          ∨ session.usable? key = none ∧ (session.step event).2.held? key = none) := by
  cases event with
  | change change =>
      refine Or.inr ⟨?_, Or.inl rfl⟩
      rintro page ⟨⟩
  | wait nanos =>
      refine Or.inr ⟨?_, Or.inl rfl⟩
      rintro page ⟨⟩
  | ask request context =>
      by_cases hcacheable : isCacheable request.query request.visibility.showUnlisted = true
      · rcases h.ask_cases hcacheable context with
          ⟨cached, hentry, hfresh, hvalue⟩ | ⟨husable, -, -, hnext⟩
        · refine Or.inr ⟨?_, Or.inl ?_⟩
          · rintro page ⟨_, hmissing, _⟩
            exact absurd hfresh (Nat.not_lt.2 (h.usable?_eq_none_iff.1 hmissing cached hentry))
          · rw [step_ask_of_engine (congrArg Prod.snd hvalue)]
        · by_cases hkey : key = session.engine.keyOf request
          · subst hkey
            cases hcomputed : session.computed request context with
            | error e =>
                refine Or.inr ⟨?_, Or.inr ⟨husable, ?_⟩⟩
                · rintro page ⟨_, _, hpage⟩
                  exact absurd (hcomputed.symm.trans hpage) (by simp)
                · rw [hnext, if_pos rfl, hcomputed]
                  rfl
            | ok page =>
                refine Or.inl ⟨page, .ask hcacheable husable hcomputed, ?_⟩
                rw [hnext, if_pos rfl, hcomputed]
                rfl
          · refine Or.inr ⟨?_, Or.inl ?_⟩
            · rintro page ⟨⟩
              exact hkey rfl
            · rw [hnext, if_neg hkey]
      · refine Or.inr ⟨?_, Or.inl ?_⟩
        · rintro page ⟨hshared, _, _⟩
          exact hcacheable hshared
        · rw [(ask_of_private session context (Bool.eq_false_iff.2 hcacheable)).2]

/-- An event keeps the cache working. -/
theorem step (h : session.Caches lifetime) (event : Event) : (session.step event).2.Caches lifetime := by
  cases event with
  | change change => exact h
  | wait nanos => exact h
  | ask request context =>
      by_cases hcacheable : isCacheable request.query request.visibility.showUnlisted = true
      · rcases h.ask_cases hcacheable context with ⟨cached, -, -, hvalue⟩ | ⟨-, -, hnext, -⟩
        · rwa [step_ask_of_engine (congrArg Prod.snd hvalue)]
        · exact hnext
      · rwa [(ask_of_private session context (Bool.eq_false_iff.2 hcacheable)).2]

/-- A sequence of events keeps the cache working. -/
theorem after (h : session.Caches lifetime) (events : List Event) :
    (session.after events).Caches lifetime := by
  induction events generalizing session with
  | nil => exact h
  | cons event events ih => exact ih (h.step event)

end Caches

/-! ### Runs -/

/-- Of the events that stored a page under a key, the last one stored this page, at the moment of the entry. -/
def LastStored (start : Session) (events : List Event) (key : String) (cached : CachedPage) : Prop :=
  ∃ earlier event later, events = earlier ++ event :: later
    ∧ (start.after earlier).Stores event key cached.page ∧ cached.storedAt = (start.after earlier).now
    ∧ ∀ between other rest, later = between ++ other :: rest →
        ∀ page, ¬ (start.after (earlier ++ event :: between)).Stores other key page

/-- The page that was stored last was stored by an event, and since then none was. -/
theorem lastStored_iff_since {start : Session} {events : List Event} {key : String} {cached : CachedPage} :
    start.LastStored events key cached
      ↔ Since
          (fun before event => (start.after before).Stores event key cached.page
            ∧ cached.storedAt = (start.after before).now)
          (fun before event => ∃ page, (start.after before).Stores event key page) events := by
  simp only [LastStored, Since, and_assoc, not_exists]

/-- The last page that was stored is that of the last event, or the one from before if that stored none. -/
theorem lastStored_concat_iff {start : Session} {events : List Event} {event : Event} {key : String}
    {cached : CachedPage} :
    start.LastStored (events ++ [event]) key cached
      ↔ ((start.after events).Stores event key cached.page ∧ cached.storedAt = (start.after events).now)
        ∨ start.LastStored events key cached ∧ ∀ page, ¬ (start.after events).Stores event key page := by
  rw [lastStored_iff_since, since_concat_iff, ← lastStored_iff_since, not_exists]

/-- The clock does not go back. -/
theorem now_le_step (session : Session) (event : Event) : session.now ≤ (session.step event).2.now := by
  cases event with
  | change change => exact Nat.le_refl _
  | wait nanos => exact Nat.le_add_right _ _
  | ask request context => exact Nat.le_refl _

/-- **Run.** Whatever happens in a session, the entries of the cache that are not too old are the pages that
were stored last under their keys. -/
theorem held?_after_iff {start : Session} {lifetime : Span}
    (hcache : start.engine.cache = some (.working lifetime)) (events : List Event) (key : String)
    (cached : CachedPage) :
    ((start.after events).held? key = some cached
        ∧ (start.after events).now - cached.storedAt < lifetime.nanos)
      ↔ start.LastStored events key cached
        ∧ (start.after events).now - cached.storedAt < lifetime.nanos := by
  have hcaches : start.Caches lifetime := ⟨_, hcache, rfl, rfl, rfl⟩
  refine and_congr_left ?_
  induction events using List.reverseRecOn with
  | nil =>
      intro _
      refine iff_of_false ?_ ?_
      · rw [show start.after [] = start from rfl, held?, hcache]
        exact fun h => absurd h (by simp [SharedCache.working, PageCache.empty])
      · rintro ⟨earlier, event, later, heq, -⟩
        exact absurd heq.symm (by simp)
  | append_singleton events event ih =>
      intro hfresh
      rw [after_concat] at hfresh ⊢
      rw [lastStored_concat_iff]
      have hbefore : (start.after events).now - cached.storedAt < lifetime.nanos :=
        Nat.lt_of_le_of_lt (Nat.sub_le_sub_right (now_le_step _ event) _) hfresh
      rcases (hcaches.after events).held?_step event key with ⟨page, hstores, hentry⟩ | ⟨hnone, hentry⟩
      · rw [hentry, Option.some.injEq]
        constructor
        · rintro rfl
          exact Or.inl ⟨hstores, rfl⟩
        · rintro (⟨hstores', hmoment⟩ | ⟨-, hnone⟩)
          · rw [hstores.unique hstores', ← hmoment]
          · exact absurd hstores (hnone page)
      · rw [or_iff_right (fun h => hnone cached.page h.1), and_iff_left hnone, ← ih hbefore]
        rcases hentry with hsame | ⟨hunusable, hdropped⟩
        · rw [hsame]
        · rw [hdropped]
          refine iff_of_false (by simp) fun hentry => ?_
          have hold := (hcaches.after events).usable?_eq_none_iff.1 hunusable cached hentry
          exact absurd hbefore (Nat.not_lt.2 hold)

/-- **Answers of a session.** In a session that starts with an empty cache, let a request be answered with a
page. If it may not be shared, this is the page that is computed at that moment, and the cache stays as it is.
If it may be shared, this is the page that was stored last under its key, if that is not too old, and the page
that is computed at that moment otherwise; and afterwards the key has the page. -/
theorem answer_of_run {start : Session} {lifetime : Span}
    (hcache : start.engine.cache = some (.working lifetime)) {events rest : List Event} {request : Request}
    {context : Context} {reply : Noted (Except SearchError Page)} {page : Page}
    (hreply : (start.run (events ++ .ask request context :: rest))[events.length]? = some (some reply))
    (hok : reply.value = .ok page) :
    (isCacheable request.query request.visibility.showUnlisted = false →
        (start.after events).computed request context = .ok page
          ∧ (start.after (events ++ [.ask request context])).engine.cache = (start.after events).engine.cache)
      ∧ (isCacheable request.query request.visibility.showUnlisted = true →
        ((∃ cached, start.LastStored events ((start.after events).engine.keyOf request) cached
              ∧ (start.after events).now - cached.storedAt < lifetime.nanos ∧ cached.page = page)
            ∨ (∀ cached, start.LastStored events ((start.after events).engine.keyOf request) cached →
                lifetime.nanos ≤ (start.after events).now - cached.storedAt)
              ∧ (start.after events).computed request context = .ok page)
          ∧ ∃ cached, (start.after (events ++ [.ask request context])).held?
              ((start.after events).engine.keyOf request) = some cached ∧ cached.page = page) := by
  have hcaches : (start.after events).Caches lifetime := Caches.after ⟨_, hcache, rfl, rfl, rfl⟩ events
  have hentry := held?_after_iff hcache events ((start.after events).engine.keyOf request)
  have hvalue : ((start.after events).engine.run (start.after events).now request context).value.1
      = .ok page := (value_of_reply hreply).trans hok
  rw [after_concat]
  refine ⟨fun hprivate => ?_, fun hcacheable => ?_⟩
  · obtain ⟨hcomputed, hsame⟩ := ask_of_private (start.after events) context hprivate
    rw [hsame]
    exact ⟨hcomputed ▸ hvalue, rfl⟩
  · rcases hcaches.ask_cases hcacheable context with
      ⟨cached, hcached, hfresh, hanswer⟩ | ⟨hunusable, hanswer, -, hnext⟩
    · have hpage : cached.page = page := by
        rw [hanswer] at hvalue
        exact Except.ok.inj hvalue
      rw [step_ask_of_engine (congrArg Prod.snd hanswer)]
      obtain ⟨hstored, -⟩ := (hentry cached).1 ⟨hcached, hfresh⟩
      exact ⟨Or.inl ⟨cached, hstored, hfresh, hpage⟩, cached, hcached, hpage⟩
    · rw [hanswer] at hvalue
      refine ⟨Or.inr ⟨?_, hvalue⟩, ?_⟩
      · intro cached hstored
        refine Nat.not_lt.1 fun hfresh => ?_
        have hcached := ((hentry cached).2 ⟨hstored, hfresh⟩).1
        exact absurd hfresh (Nat.not_lt.2 (hcaches.usable?_eq_none_iff.1 hunusable cached hcached))
      · rw [hnext, if_pos rfl, hvalue]
        exact ⟨_, rfl, rfl⟩

/-- A session over one feature, with an empty cache that keeps pages for a millisecond. -/
def ofAnn : Session :=
  ⟨{ Engine.ofFeatures [.ownedBy "ann" 1 false] with cache := some (.working (.ofMillis 1)) }, 0⟩

/-- A request for the features of an owner, whose feature goes to another owner soon after. -/
def askAndGive : List Event :=
  [.ask (.ofQuery "owner=ann") (.anonymousAt .epoch), .change (.feature (.ownedBy "bob" 1 false)), .wait 1]

/-- When the request is made again, the answer is the page that was stored before, with the feature on it. -/
theorem answer_of_run_cached :
    ofAnn.engine.cache = some (.working (.ofMillis 1))
      ∧ ∃ reply,
        (ofAnn.run (askAndGive ++ .ask (.ofQuery "owner=ann") (.anonymousAt .epoch) :: []))[askAndGive.length]?
            = some (some reply)
          ∧ reply.value = .ok ⟨[.nameOnly 1 ""], 1⟩
          ∧ isCacheable "owner=ann" true = true
          ∧ (ofAnn.after askAndGive).computed (.ofQuery "owner=ann") (.anonymousAt .epoch)
            ≠ .ok ⟨[.nameOnly 1 ""], 1⟩
          ∧ ∃ cached,
            ofAnn.LastStored askAndGive ((ofAnn.after askAndGive).engine.keyOf (.ofQuery "owner=ann")) cached
              ∧ (ofAnn.after askAndGive).now - cached.storedAt < (Span.ofMillis 1).nanos
              ∧ cached.page = ⟨[.nameOnly 1 ""], 1⟩ := by
  have hreply := ofAnn.getElem?_run askAndGive [] (.ask (.ofQuery "owner=ann") (.anonymousAt .epoch))
  have hok : ((ofAnn.after askAndGive).engine.run (ofAnn.after askAndGive).now (.ofQuery "owner=ann")
      (.anonymousAt .epoch)).value.1 = .ok ⟨[.nameOnly 1 ""], 1⟩ := by
    decide +kernel
  have hcacheable : isCacheable "owner=ann" true = true := by decide +kernel
  have hcomputed : (ofAnn.after askAndGive).computed (.ofQuery "owner=ann") (.anonymousAt .epoch)
      ≠ .ok ⟨[.nameOnly 1 ""], 1⟩ := by
    decide +kernel
  refine ⟨rfl, _, hreply, hok, hcacheable, hcomputed, ?_⟩
  exact ((answer_of_run rfl hreply hok).2 hcacheable).1.resolve_right fun h => hcomputed h.2

end Session

end FeatureQuery
