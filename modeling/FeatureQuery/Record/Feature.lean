import FeatureQuery.Record.Basic

/-!
# Features

The entries that queries search for.

## Main results

* `Feature.isEnterprise_iff`: enterprise features are those of one type.
-/

namespace FeatureQuery

open FeatureQuery.Time (Instant)

/-- A feature of the platform. Enumerated properties hold codes. -/
structure Feature where
  id : Int64
  name : String
  summary : String
  category : Int64
  featureType : Int64
  implStatusChrome : Int64
  intentStage : Int64
  standardMaturity : Int64
  ownerEmails : List String
  editorEmails : List String
  ccEmails : List String
  creatorEmail : Option String
  blinkComponents : List String
  created : Instant
  updated : Instant
  accurateAsOf : Option Instant
  shippingYear : Option Int64
  starCount : Int64
  deleted : Bool
  unlisted : Bool
  deriving DecidableEq

namespace Feature

/-- The feature type of features that matter to administrators of enterprises only. -/
def enterpriseType : Int64 := 4

/-- The feature matters to administrators of enterprises only. -/
def isEnterprise (feature : Feature) : Bool :=
  feature.featureType == enterpriseType

/-- Enterprise features are those of one type. -/
theorem isEnterprise_iff {feature : Feature} :
    feature.isEnterprise = true ↔ feature.featureType = enterpriseType := by
  simp [isEnterprise]

/-- The values of a feature. -/
def values (feature : Feature) : Property → List Value
  | .featureId => [.int feature.id]
  | .name => [.text feature.name]
  | .summary => [.text feature.summary]
  | .category => [.int feature.category]
  | .featureType => [.int feature.featureType]
  | .implStatusChrome => [.int feature.implStatusChrome]
  | .intentStage => [.int feature.intentStage]
  | .standardMaturity => [.int feature.standardMaturity]
  | .ownerEmails => Record.textValues feature.ownerEmails
  | .editorEmails => Record.textValues feature.editorEmails
  | .ccEmails => Record.textValues feature.ccEmails
  | .creatorEmail => Record.optionalValue .text feature.creatorEmail
  | .blinkComponents => Record.textValues feature.blinkComponents
  | .created => [.instant feature.created]
  | .updated => [.instant feature.updated]
  | .accurateAsOf => Record.optionalValue .instant feature.accurateAsOf
  | .shippingYear => Record.optionalValue .int feature.shippingYear
  | .starCount => [.int feature.starCount]
  | .deleted => [.bool feature.deleted]
  | .unlisted => [.bool feature.unlisted]
  | _ => []

instance : Record Feature where
  collection := .feature
  featureId := Feature.id
  values := Feature.values

/-! ### JSON -/

/-- The names of the fields, in order. -/
def fieldNames : List String :=
  ["id", "name", "summary", "category", "feature_type", "impl_status_chrome", "intent_stage",
   "standard_maturity", "owner_emails", "editor_emails", "cc_emails", "creator_email",
   "blink_components", "created", "updated", "accurate_as_of", "shipping_year", "star_count", "deleted",
   "unlisted"]

/-- Reads a feature. Its id, its name and the times of its creation and last change are needed. -/
def ofJson? (json : Json) : Option Feature := do
  let fields ← json.fieldsOf? fieldNames
  let code (name : String) := fields.withDefault name Json.int64Value? 0
  let texts (name : String) := fields.withDefault name (Json.listValue? Json.textValue?) []
  return {
    id := ← fields.required "id" Json.int64Value?
    name := ← fields.required "name" Json.textValue?
    summary := ← fields.withDefault "summary" Json.textValue? ""
    category := ← code "category"
    featureType := ← code "feature_type"
    implStatusChrome := ← code "impl_status_chrome"
    intentStage := ← code "intent_stage"
    standardMaturity := ← code "standard_maturity"
    ownerEmails := ← texts "owner_emails"
    editorEmails := ← texts "editor_emails"
    ccEmails := ← texts "cc_emails"
    creatorEmail := ← fields.withDefault "creator_email" (Json.nullable? Json.textValue?) none
    blinkComponents := ← texts "blink_components"
    created := ← fields.required "created" Json.instantValue?
    updated := ← fields.required "updated" Json.instantValue?
    accurateAsOf := ← fields.withDefault "accurate_as_of" (Json.nullable? Json.instantValue?) none
    shippingYear := ← fields.withDefault "shipping_year" (Json.nullable? Json.int64Value?) none
    starCount := ← code "star_count"
    deleted := ← fields.withDefault "deleted" Json.boolValue? false
    unlisted := ← fields.withDefault "unlisted" Json.boolValue? false }

/-- Writes a feature with all its fields. -/
def toJson (feature : Feature) : Json :=
  .obj
    [("id", .int64 feature.id), ("name", .text feature.name), ("summary", .text feature.summary),
     ("category", .int64 feature.category), ("feature_type", .int64 feature.featureType),
     ("impl_status_chrome", .int64 feature.implStatusChrome),
     ("intent_stage", .int64 feature.intentStage),
     ("standard_maturity", .int64 feature.standardMaturity),
     ("owner_emails", .texts feature.ownerEmails), ("editor_emails", .texts feature.editorEmails),
     ("cc_emails", .texts feature.ccEmails),
     ("creator_email", .orNull (feature.creatorEmail.map .text)),
     ("blink_components", .texts feature.blinkComponents), ("created", .instant feature.created),
     ("updated", .instant feature.updated),
     ("accurate_as_of", .orNull (feature.accurateAsOf.map .instant)),
     ("shipping_year", .orNull (feature.shippingYear.map .int64)),
     ("star_count", .int64 feature.starCount), ("deleted", .bool feature.deleted),
     ("unlisted", .bool feature.unlisted)]

end Feature

end FeatureQuery
