import FeatureQuery.Error
import FeatureQuery.Json.Reader
import FeatureQuery.Record.Feature
import FeatureQuery.Record.Gate
import FeatureQuery.Record.Stage
import FeatureQuery.Record.Star
import FeatureQuery.Store.Selection
import FeatureQuery.Store.TextIndex

/-!
# Store

The records of the four collections, with an index of the words in the features' texts. A feature replaces
the one with the same id in its place; records of the other collections are only added. A collection can
be taken offline, and then every question to it fails.

## Main results

* `fetchIds_eq_ok`: a valid query to a collection that is online is answered by selection.
* `fetchIds_offline`: a valid query to a collection that is offline fails.
* `mem_offline_setOffline`: a collection is taken offline or put back apart from the others.
-/

namespace FeatureQuery

/-- The stored records. -/
structure Store where
  features : List Feature
  stages : List Stage
  gates : List Gate
  stars : List Star
  /-- The words of the names and summaries of the features. -/
  index : TextIndex
  offline : List Collection

namespace Store

/-- The store without records. -/
def empty : Store := ⟨[], [], [], [], .empty, []⟩

/-- What the store is called in errors and warnings. -/
def backendName : String := "memory"

/-! ### Changes -/

/-- Features with one put in the place of the one with its id, or at the end. -/
def putFeature (feature : Feature) : List Feature → List Feature
  | [] => [feature]
  | f :: rest => if f.id = feature.id then feature :: rest else f :: putFeature feature rest

/-- The words that a feature is found by. -/
def wordsOf (feature : Feature) : List String :=
  indexWords feature.name ++ indexWords feature.summary

/-- An index brought up to date with a feature. -/
def reindex (index : TextIndex) (feature : Feature) : TextIndex :=
  (wordsOf feature).foldl (fun index word => index.add feature.id word) (index.erase feature.id)

/-- The store with a feature put in. -/
def insertFeature (store : Store) (feature : Feature) : Store :=
  { store with
    features := putFeature feature store.features
    index := reindex store.index feature }

/-- The store with one more stage. -/
def insertStage (store : Store) (stage : Stage) : Store :=
  { store with stages := store.stages ++ [stage] }

/-- The store with one more gate. -/
def insertGate (store : Store) (gate : Gate) : Store :=
  { store with gates := store.gates ++ [gate] }

/-- The store with one more star. -/
def insertStar (store : Store) (star : Star) : Store :=
  { store with stars := store.stars ++ [star] }

/-- The store with a collection taken offline or put back. -/
def setOffline (store : Store) (collection : Collection) (offline : Bool) : Store :=
  { store with
    offline := (if offline then [collection] else []) ++ store.offline.filter (· ≠ collection) }

/-- The store of some records. -/
def ofRecords (features : List Feature) (stages : List Stage) (gates : List Gate)
    (stars : List Star) : Store :=
  let store := features.foldl insertFeature empty
  let store := stages.foldl insertStage store
  let store := gates.foldl insertGate store
  stars.foldl insertStar store

/-! ### Questions -/

/-- Fails if a collection is offline. -/
def checkOnline (store : Store) (collection : Collection) : Except StoreError Unit :=
  if store.offline.contains collection then
    .error (.unavailable backendName (collection.name ++ " collection is offline"))
  else
    .ok ()

/-- A query is valid if all its properties are of its collection. -/
def checkValid (query : StoreQuery) : Except StoreError Unit :=
  match query.misplaced? with
  | some p => .error (.mismatch p.storageName query.collection.name)
  | none => .ok ()

/-- The features that a query selects. -/
def select (store : Store) (query : StoreQuery) : List Int64 :=
  match query.collection with
  | .feature => Record.select store.features query
  | .stage => Record.select store.stages query
  | .gate => Record.select store.gates query
  | .star => Record.select store.stars query

/-- The features that a query selects, in its order and with repetitions. -/
def fetchIds (store : Store) (query : StoreQuery) : Except StoreError (List Int64) := do
  checkValid query
  store.checkOnline query.collection
  return store.select query

/-- The records of features, in the order of the store. Ids without a record are passed over. -/
def fetchFeatures (store : Store) (ids : List Int64) : Except StoreError (List Feature) := do
  store.checkOnline .feature
  return store.features.filter fun feature => ids.contains feature.id

/-- The features whose name and summary have every word of a text. -/
def searchText (store : Store) (text : String) : Except StoreError (List Int64) := do
  store.checkOnline .feature
  return (store.index.search (indexWords text)).toList

/-- A valid query to a collection that is online is answered by selection. -/
theorem fetchIds_eq_ok {store : Store} {query : StoreQuery} (valid : query.misplaced? = none)
    (online : query.collection ∉ store.offline) : store.fetchIds query = .ok (store.select query) := by
  simp [fetchIds, checkValid, valid, checkOnline, online, bind, Except.bind, pure, Except.pure]

/-- A valid query to a collection that is offline fails. -/
theorem fetchIds_offline {store : Store} {query : StoreQuery} (valid : query.misplaced? = none)
    (offline : query.collection ∈ store.offline) :
    store.fetchIds query
      = .error (.unavailable backendName (query.collection.name ++ " collection is offline")) := by
  simp [fetchIds, checkValid, valid, checkOnline, offline, bind, Except.bind]

/-- A collection is taken offline or put back, and the others stay as they are. -/
theorem mem_offline_setOffline {store : Store} {collection other : Collection} {offline : Bool} :
    other ∈ (store.setOffline collection offline).offline
      ↔ if other = collection then offline = true else other ∈ store.offline := by
  by_cases heq : other = collection
  · subst heq
    cases offline <;> simp [setOffline]
  · cases offline <;> simp [setOffline, heq]

/-! ### Diagnostics and JSON -/

/-- The number of features. -/
def size (store : Store) : Nat :=
  store.features.length

/-- The store has no features. -/
def isEmpty (store : Store) : Bool :=
  store.features.isEmpty

/-- How the store is shown in diagnostics. -/
def diagnostic (store : Store) : String :=
  "MemoryStore \x7b features: " ++ toString store.features.length
    ++ ", stages: " ++ toString store.stages.length ++ ", gates: " ++ toString store.gates.length
    ++ ", stars: " ++ toString store.stars.length ++ ", .. \x7d"

/-- The names of the collections in JSON, in order. -/
def fieldNames : List String := ["features", "stages", "gates", "stars"]

/-- Reads the records of a store. Each collection may be missing. -/
def ofJson? (json : Json) : Option Store := do
  let fields ← json.fieldsOf? fieldNames
  return ofRecords
    (← fields.withDefault "features" (Json.listValue? Feature.ofJson?) [])
    (← fields.withDefault "stages" (Json.listValue? Stage.ofJson?) [])
    (← fields.withDefault "gates" (Json.listValue? Gate.ofJson?) [])
    (← fields.withDefault "stars" (Json.listValue? Star.ofJson?) [])

/-- The store of the records that a text holds as JSON. -/
def read (text : String) : Except StoreError Store :=
  match (Json.read? text).bind ofJson? with
  | some store => .ok store
  | none => .error (.internal backendName "invalid fixture")

end Store

end FeatureQuery
