import FeatureQuery.Json.Fields
import FeatureQuery.SortSpec
import FeatureQuery.Time.Span

/-!
# Configuration

How the engine is set up: the window of recent reviews, the cache, and the order of requests that ask for
none. Settings come from JSON or from environment variables, and all have defaults. A lifetime of the cache
that has no reading leaves no settings at all.

## Main results

* `problems_standard`: the standard settings have no problems.
* `ofJson_object_of_error`: the first fault of an object counts.
* `ofEnvironment_of_unset`: where no environment variable is set, all settings have their defaults.
* `lifetime_ne_unreadable`: no environment variable is refused.
-/

namespace FeatureQuery

open FeatureQuery.Time (Span SpanError)

/-- The settings of the engine. -/
structure Config where
  /-- How many days a decided review counts as recent. -/
  recentReviewDays : Int64
  /-- How long a cached page may be used. -/
  cacheTtl : Span
  /-- What every cache key starts with. -/
  cacheKeyPrefix : String
  /-- The sort specification of requests without one. -/
  defaultSort : String
  deriving DecidableEq

namespace Config

/-- The settings that hold where nothing else is said. -/
def standard : Config := ⟨30, ⟨3600000000000⟩, "featuresearch", "-created.when"⟩

/-- The sort specification of requests without one. -/
def defaultSpec (config : Config) : SortSpec :=
  .ofText config.defaultSort

/-- What is wrong with some settings. -/
def problems (config : Config) : List String :=
  (if config.recentReviewDays ≤ 0 then ["recent_review_days must be positive"] else [])
    ++ (if config.cacheTtl.nanos = 0 then ["cache_ttl must be greater than zero"] else [])
    ++ (if config.cacheKeyPrefix.isEmpty then ["cache_key_prefix cannot be empty"] else [])
    ++ (if config.defaultSpec.key.isEmpty then ["default_sort must name a sort key"] else [])

/-- Every default passes its own check. -/
theorem problems_standard : standard.problems = [] := by
  decide +kernel

/-! ### JSON -/

/-- The names of the fields, in order. -/
def fieldNames : List String :=
  ["recent_review_days", "cache_ttl", "cache_key_prefix", "default_sort"]

/-- Reads a length of time from JSON. -/
def readSpan (json : Json) : Except SpanError Span := do
  Span.read (← Span.orUnreadable (Json.textValue? json)).toList

/-- The settings that have been read so far. -/
structure Draft where
  recentReviewDays : Option Int64
  cacheTtl : Option Span
  cacheKeyPrefix : Option String
  defaultSort : Option String
  deriving DecidableEq

namespace Draft

/-- Nothing has been read. -/
def blank : Draft := ⟨none, none, none, none⟩

/-- A setting that is read now. It is refused if it has been read before, whatever its value is now. -/
def once {α : Type} (known : Option α) (reading : Except SpanError α) : Except SpanError (Option α) :=
  match known with
  | some _ => .error .unreadable
  | none => some <$> reading

/-- The draft with one more field, which may have a name that is no text. Other settings are ignored. -/
def put (draft : Draft) : Option String × Json → Except SpanError Draft
  | (some "recent_review_days", value) => do
    let days ← once draft.recentReviewDays (Span.orUnreadable (Json.int64Value? value))
    return { draft with recentReviewDays := days }
  | (some "cache_ttl", value) => do
    return { draft with cacheTtl := ← once draft.cacheTtl (readSpan value) }
  | (some "cache_key_prefix", value) => do
    let start ← once draft.cacheKeyPrefix (Span.orUnreadable (Json.textValue? value))
    return { draft with cacheKeyPrefix := start }
  | (some "default_sort", value) => do
    let sort ← once draft.defaultSort (Span.orUnreadable (Json.textValue? value))
    return { draft with defaultSort := sort }
  | (some _, _) => .ok draft
  | (none, _) => .error .unreadable

/-- The settings of a draft. Those that are missing have their defaults. -/
def complete (draft : Draft) : Config :=
  ⟨draft.recentReviewDays.getD standard.recentReviewDays, draft.cacheTtl.getD standard.cacheTtl,
   draft.cacheKeyPrefix.getD standard.cacheKeyPrefix, draft.defaultSort.getD standard.defaultSort⟩

end Draft

/-- Reads settings, field by field. The values of an array belong to the fields in order, and a value that
is left over is refused after the others have been read. -/
def ofJson : Json → Except SpanError Config
  | .object fields => Draft.complete <$> fields.foldlM Draft.put .blank
  | .array items => do
    let draft ← ((fieldNames.map some).zip items).foldlM Draft.put .blank
    if items.length ≤ fieldNames.length then return draft.complete else .error .unreadable
  | _ => .error .unreadable

/-- The first fault of an object counts, whatever comes after it. -/
theorem ofJson_object_of_error {fields : List (Option String × Json)} {e : SpanError}
    (rest : List (Option String × Json)) (h : fields.foldlM Draft.put .blank = .error e) :
    ofJson (.object (fields ++ rest)) = .error e := by
  rw [ofJson, List.foldlM_append, h]
  rfl

/-- Writes settings. -/
def toJson (config : Config) : Json :=
  .obj
    [("recent_review_days", .int64 config.recentReviewDays), ("cache_ttl", .text config.cacheTtl.text),
     ("cache_key_prefix", .text config.cacheKeyPrefix), ("default_sort", .text config.defaultSort)]

/-! ### Environment variables -/

/-- The names of the environment variables of settings. -/
def variableNames : List String :=
  ["RADAR_RECENT_REVIEW_DAYS", "RADAR_CACHE_TTL", "RADAR_CACHE_KEY_PREFIX", "RADAR_DEFAULT_SORT"]

/-- The value of an environment variable that is not blank. -/
def setting? (environment : List (String × String)) (name : String) : Option String :=
  (environment.lookup name).filter fun value => !(Text.trim value.toList).isEmpty

/-- The lifetime of the cache in a variable that may be set. A refused one keeps its default. -/
def lifetime : Option String → Except SpanError Span
  | none => .ok standard.cacheTtl
  | some value =>
    match Span.read value.toList with
    | .error .unreadable => .ok standard.cacheTtl
    | result => result

/-- The settings in environment variables. One that cannot be read keeps its default. -/
def ofEnvironment (environment : List (String × String)) : Except SpanError Config := do
  let ttl ← lifetime (setting? environment "RADAR_CACHE_TTL")
  return {
    recentReviewDays :=
      ((setting? environment "RADAR_RECENT_REVIEW_DAYS").bind fun value =>
        Number.readInt64? value.toList).getD standard.recentReviewDays
    cacheTtl := ttl
    cacheKeyPrefix := (setting? environment "RADAR_CACHE_KEY_PREFIX").getD standard.cacheKeyPrefix
    defaultSort := (setting? environment "RADAR_DEFAULT_SORT").getD standard.defaultSort }

/-- Where every variable is missing or blank, all settings have their defaults. -/
theorem ofEnvironment_of_unset {environment : List (String × String)}
    (h : ∀ name ∈ variableNames, setting? environment name = none) : ofEnvironment environment = .ok standard := by
  simp only [variableNames, List.forall_mem_cons] at h
  obtain ⟨hdays, httl, hprefix, hsort, -⟩ := h
  rw [ofEnvironment, hdays, httl, hprefix, hsort]
  rfl

/-- A variable is not refused for a lifetime that cannot be read. -/
theorem lifetime_ne_unreadable (value : Option String) : lifetime value ≠ .error .unreadable := by
  cases value with
  | none => exact nofun
  | some value =>
    rw [lifetime]
    split
    · exact nofun
    · next refused => exact fun same => refused same

end Config

end FeatureQuery
