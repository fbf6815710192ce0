import FeatureQuery.Value

/-!
# Properties

Every property of a record that can be filtered or ordered on belongs to one collection, holds values of
one kind, and is carried once, at most once, or any number of times by a record.

## Main results

* `ofLabel?_label`: a property is read back from its label.
* `not_float`: no property holds floats.
-/

namespace FeatureQuery

/-- The collections of records. -/
inductive Collection where
  | feature | stage | gate | star
  deriving DecidableEq

namespace Collection

/-- The name of a collection. -/
def name : Collection → String
  | feature => "feature"
  | stage => "stage"
  | gate => "gate"
  | star => "star"

/-- All collections. -/
def all : List Collection := [feature, stage, gate, star]

/-- The collection of a name. -/
def ofName? (name : String) : Option Collection :=
  all.find? (·.name == name)

/-- A collection is found by its name. -/
theorem ofName?_name (c : Collection) : ofName? c.name = some c := by
  cases c <;> rfl

end Collection

/-- How many values of a property a record carries. -/
inductive Cardinality where
  /-- Exactly one. -/
  | required
  /-- None or one. -/
  | optional
  /-- Any number; a filter matches if any of them does. -/
  | repeated
  deriving DecidableEq

/-- The properties of all collections. -/
inductive Property where
  | featureId | name | summary | category | featureType | implStatusChrome | intentStage
  | standardMaturity | ownerEmails | editorEmails | ccEmails | creatorEmail | blinkComponents
  | created | updated | accurateAsOf | shippingYear | starCount | deleted | unlisted
  | stageFeatureId | stageType | desktopFirst | desktopLast | androidFirst | androidLast | iosFirst
  | webviewFirst | rolloutMilestone
  | gateFeatureId | gateType | gateState | requestedOn | resolvedOn
  | starFeatureId | starEmail | starred
  deriving DecidableEq

namespace Property

/-- The collection whose records carry the property. -/
def collection : Property → Collection
  | stageFeatureId | stageType | desktopFirst | desktopLast | androidFirst | androidLast | iosFirst
  | webviewFirst | rolloutMilestone => .stage
  | gateFeatureId | gateType | gateState | requestedOn | resolvedOn => .gate
  | starFeatureId | starEmail | starred => .star
  | _ => .feature

/-- The kind of the property's values. -/
def kind : Property → ValueKind
  | name | summary | ownerEmails | editorEmails | ccEmails | creatorEmail | blinkComponents
  | starEmail => .text
  | created | updated | accurateAsOf | requestedOn | resolvedOn => .instant
  | deleted | unlisted | starred => .bool
  | _ => .int

/-- How many values of the property a record carries. -/
def cardinality : Property → Cardinality
  | ownerEmails | editorEmails | ccEmails | blinkComponents => .repeated
  | creatorEmail | accurateAsOf | shippingYear | desktopFirst | desktopLast | androidFirst
  | androidLast | iosFirst | webviewFirst | rolloutMilestone | requestedOn | resolvedOn => .optional
  | _ => .required

/-- The label of the property in data and the last part of its name within the collection. -/
def spellings : Property → String × String
  | featureId => ("FeatureId", "id")
  | name => ("Name", "name")
  | summary => ("Summary", "summary")
  | category => ("Category", "category")
  | featureType => ("FeatureType", "feature_type")
  | implStatusChrome => ("ImplStatusChrome", "impl_status_chrome")
  | intentStage => ("IntentStage", "intent_stage")
  | standardMaturity => ("StandardMaturity", "standard_maturity")
  | ownerEmails => ("OwnerEmails", "owner_emails")
  | editorEmails => ("EditorEmails", "editor_emails")
  | ccEmails => ("CcEmails", "cc_emails")
  | creatorEmail => ("CreatorEmail", "creator_email")
  | blinkComponents => ("BlinkComponents", "blink_components")
  | created => ("Created", "created")
  | updated => ("Updated", "updated")
  | accurateAsOf => ("AccurateAsOf", "accurate_as_of")
  | shippingYear => ("ShippingYear", "shipping_year")
  | starCount => ("StarCount", "star_count")
  | deleted => ("Deleted", "deleted")
  | unlisted => ("Unlisted", "unlisted")
  | stageFeatureId => ("StageFeatureId", "feature_id")
  | stageType => ("StageType", "stage_type")
  | desktopFirst => ("DesktopFirst", "desktop_first")
  | desktopLast => ("DesktopLast", "desktop_last")
  | androidFirst => ("AndroidFirst", "android_first")
  | androidLast => ("AndroidLast", "android_last")
  | iosFirst => ("IosFirst", "ios_first")
  | webviewFirst => ("WebviewFirst", "webview_first")
  | rolloutMilestone => ("RolloutMilestone", "rollout_milestone")
  | gateFeatureId => ("GateFeatureId", "feature_id")
  | gateType => ("GateType", "gate_type")
  | gateState => ("GateState", "state")
  | requestedOn => ("RequestedOn", "requested_on")
  | resolvedOn => ("ResolvedOn", "resolved_on")
  | starFeatureId => ("StarFeatureId", "feature_id")
  | starEmail => ("StarEmail", "email")
  | starred => ("Starred", "starred")

/-- The label that stands for the property in data. -/
def label (p : Property) : String :=
  p.spellings.1

/-- The storage name of the property: its collection and its name there. -/
def storageName (p : Property) : String :=
  p.collection.name ++ "." ++ p.spellings.2

/-- All properties. -/
def all : List Property :=
  [featureId, name, summary, category, featureType, implStatusChrome, intentStage, standardMaturity,
   ownerEmails, editorEmails, ccEmails, creatorEmail, blinkComponents, created, updated, accurateAsOf,
   shippingYear, starCount, deleted, unlisted, stageFeatureId, stageType, desktopFirst, desktopLast,
   androidFirst, androidLast, iosFirst, webviewFirst, rolloutMilestone, gateFeatureId, gateType,
   gateState, requestedOn, resolvedOn, starFeatureId, starEmail, starred]

/-- The property of a label. -/
def ofLabel? (label : String) : Option Property :=
  all.find? (·.label == label)

/-- A property is found by its label. -/
theorem ofLabel?_label (p : Property) : ofLabel? p.label = some p := by
  cases p <;> rfl

/-- No property holds floats. -/
theorem not_float (p : Property) : p.kind ≠ .float := by
  cases p <;> decide

end Property

end FeatureQuery
