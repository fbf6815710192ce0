import FeatureQuery.Record.Basic

/-!
# Stages

The stages of a feature's launch, with the milestones at which the feature reaches each platform.
-/

namespace FeatureQuery

/-- A stage of a feature's launch. A milestone that is not planned is absent. -/
structure Stage where
  id : Int64
  featureId : Int64
  stageType : Int64
  desktopFirst : Option Int64
  desktopLast : Option Int64
  androidFirst : Option Int64
  androidLast : Option Int64
  iosFirst : Option Int64
  webviewFirst : Option Int64
  rolloutMilestone : Option Int64
  deriving DecidableEq

namespace Stage

/-- The values of a stage. -/
def values (stage : Stage) : Property → List Value
  | .stageFeatureId => [.int stage.featureId]
  | .stageType => [.int stage.stageType]
  | .desktopFirst => Record.optionalValue .int stage.desktopFirst
  | .desktopLast => Record.optionalValue .int stage.desktopLast
  | .androidFirst => Record.optionalValue .int stage.androidFirst
  | .androidLast => Record.optionalValue .int stage.androidLast
  | .iosFirst => Record.optionalValue .int stage.iosFirst
  | .webviewFirst => Record.optionalValue .int stage.webviewFirst
  | .rolloutMilestone => Record.optionalValue .int stage.rolloutMilestone
  | _ => []

instance : Record Stage where
  collection := .stage
  featureId := Stage.featureId
  values := Stage.values

/-! ### JSON -/

/-- The names of the fields, in order. -/
def fieldNames : List String :=
  ["id", "feature_id", "stage_type", "desktop_first", "desktop_last", "android_first", "android_last",
   "ios_first", "webview_first", "rollout_milestone"]

/-- Reads a stage. Its ids and its type are needed. -/
def ofJson? (json : Json) : Option Stage := do
  let fields ← json.fieldsOf? fieldNames
  let milestone (name : String) := fields.withDefault name (Json.nullable? Json.int64Value?) none
  return {
    id := ← fields.required "id" Json.int64Value?
    featureId := ← fields.required "feature_id" Json.int64Value?
    stageType := ← fields.required "stage_type" Json.int64Value?
    desktopFirst := ← milestone "desktop_first"
    desktopLast := ← milestone "desktop_last"
    androidFirst := ← milestone "android_first"
    androidLast := ← milestone "android_last"
    iosFirst := ← milestone "ios_first"
    webviewFirst := ← milestone "webview_first"
    rolloutMilestone := ← milestone "rollout_milestone" }

/-- Writes a stage with all its fields. -/
def toJson (stage : Stage) : Json :=
  let milestone (n : Option Int64) : Json := .orNull (n.map .int64)
  .obj
    [("id", .int64 stage.id), ("feature_id", .int64 stage.featureId),
     ("stage_type", .int64 stage.stageType), ("desktop_first", milestone stage.desktopFirst),
     ("desktop_last", milestone stage.desktopLast), ("android_first", milestone stage.androidFirst),
     ("android_last", milestone stage.androidLast), ("ios_first", milestone stage.iosFirst),
     ("webview_first", milestone stage.webviewFirst),
     ("rollout_milestone", milestone stage.rolloutMilestone)]

end Stage

end FeatureQuery
