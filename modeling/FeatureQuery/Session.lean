import FeatureQuery.Engine

/-!
# Sessions

A sequence of events on one engine: records are added, collections go offline and come back, time passes,
and requests are made.

## Main results

* `length_run`: every event has its reply.
-/

namespace FeatureQuery

/-- A change to the store. -/
inductive Change where
  | feature (feature : Feature)
  | stage (stage : Stage)
  | gate (gate : Gate)
  | star (star : Star)
  /-- A collection is taken offline or put back. -/
  | offline (collection : Collection) (offline : Bool)

/-- The store after a change. -/
def Store.change (store : Store) : Change → Store
  | .feature feature => store.insertFeature feature
  | .stage stage => store.insertStage stage
  | .gate gate => store.insertGate gate
  | .star star => store.insertStar star
  | .offline collection offline => store.setOffline collection offline

/-- Something that happens in a session. -/
inductive Event where
  | change (change : Change)
  /-- So many nanoseconds pass. -/
  | wait (nanos : Nat)
  | ask (request : Request) (context : Context)

/-- An engine and the time on its clock. -/
structure Session where
  engine : Engine
  now : Nat

namespace Session

/-- The session after an event, and the reply if the event was a request. -/
def step (session : Session) : Event → Option (Noted (Except SearchError Page)) × Session
  | .change change =>
    (none, { session with engine := { session.engine with store := session.engine.store.change change } })
  | .wait nanos => (none, { session with now := session.now + nanos })
  | .ask request context =>
    let reply := session.engine.run session.now request context
    (some (Prod.fst <$> reply), { session with engine := reply.value.2 })

/-- The replies to a sequence of events. -/
def run (session : Session) : List Event → List (Option (Noted (Except SearchError Page)))
  | [] => []
  | event :: events =>
    let (reply, session) := session.step event
    reply :: session.run events

/-- Every event has one reply. -/
theorem length_run (session : Session) (events : List Event) :
    (session.run events).length = events.length := by
  induction events generalizing session with
  | nil => rfl
  | cons event events ih => simp [run, ih]

end Session

end FeatureQuery
