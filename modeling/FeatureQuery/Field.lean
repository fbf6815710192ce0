import FeatureQuery.Enumeration
import FeatureQuery.Property
import FeatureQuery.Text.Lowercase

/-!
# Query fields

The fields that query terms may name, and what each of them is bound to: a property of the feature
itself, or a property of those of its stages that have one of some types.

## Main results

* `Field.ofName?_spelling`: a field is read back from its name.
* `Field.collection_binding`: fields bound to features are properties of features, all others of stages.
-/

namespace FeatureQuery

/-- Where a field's values are found. -/
inductive Target where
  /-- On the feature itself. -/
  | primary
  /-- On the feature's stages of these types. -/
  | joined (stageTypes : List Int64)
  deriving DecidableEq

/-- What a field is bound to. -/
structure Binding where
  target : Target
  property : Property
  /-- The enumeration whose names the field's values may be given by. -/
  enumeration : Option Enumeration
  /-- The store can filter on the property. -/
  indexed : Bool
  deriving DecidableEq

namespace Binding

/-- A property of the feature. -/
def primary (property : Property) : Binding :=
  ⟨.primary, property, none, true⟩

/-- A property of the feature that holds codes of an enumeration. -/
def enumerated (property : Property) (enumeration : Enumeration) : Binding :=
  ⟨.primary, property, some enumeration, true⟩

/-- A property of the feature that cannot be filtered on. -/
def unindexed (property : Property) : Binding :=
  ⟨.primary, property, none, false⟩

/-- A property of the feature's stages of some types. -/
def joined (property : Property) (stageTypes : List Int64) : Binding :=
  ⟨.joined stageTypes, property, none, true⟩

/-- The collection that is searched. -/
def collection (binding : Binding) : Collection :=
  binding.property.collection

end Binding

/-! ### Stage types -/

/-- The stages in which a feature ships. -/
def shippingStages : List Int64 := [160, 260, 360, 460]

/-- The stages in which a feature or its removal is on trial with users. -/
def originTrialStages : List Int64 := [150, 250, 450]

/-- The stages in which developers try a feature. -/
def devTrialStages : List Int64 := [130, 230, 330, 430]

/-- The stages in which a feature is rolled out to enterprises. -/
def rolloutStages : List Int64 := [1061]

/-! ### Fields -/

/-- The fields of queries. -/
inductive Field where
  | id | name | summary | category | featureType | implStatusChrome | intentStage | standardMaturity
  | owner | editor | cc | creator | blinkComponent | createdWhen | updatedWhen | accurateAsOf
  | shippingYear | starCount
  | desktop | android | ios | webview
  | originTrialDesktopStart | originTrialDesktopEnd | originTrialAndroidStart | originTrialAndroidEnd
  | devTrialDesktopStart | devTrialAndroidStart
  | rolloutMilestone
  deriving DecidableEq

namespace Field

/-- All fields, in order. -/
def all : List Field :=
  [id, name, summary, category, featureType, implStatusChrome, intentStage, standardMaturity,
   owner, editor, cc, creator, blinkComponent, createdWhen, updatedWhen, accurateAsOf, shippingYear,
   starCount, desktop, android, ios, webview, originTrialDesktopStart, originTrialDesktopEnd,
   originTrialAndroidStart, originTrialAndroidEnd, devTrialDesktopStart, devTrialAndroidStart,
   rolloutMilestone]

/-- The name of a field in queries. -/
def spelling : Field → String
  | id => "id"
  | name => "name"
  | summary => "summary"
  | category => "category"
  | featureType => "feature_type"
  | implStatusChrome => "impl_status_chrome"
  | intentStage => "intent_stage"
  | standardMaturity => "standard_maturity"
  | owner => "owner"
  | editor => "editor"
  | cc => "cc"
  | creator => "creator"
  | blinkComponent => "blink_component"
  | createdWhen => "created.when"
  | updatedWhen => "updated.when"
  | accurateAsOf => "accurate_as_of"
  | shippingYear => "shipping_year"
  | starCount => "star_count"
  | desktop => "browsers.chrome.desktop"
  | android => "browsers.chrome.android"
  | ios => "browsers.chrome.ios"
  | webview => "browsers.chrome.webview"
  | originTrialDesktopStart => "browsers.chrome.ot.desktop.start"
  | originTrialDesktopEnd => "browsers.chrome.ot.desktop.end"
  | originTrialAndroidStart => "browsers.chrome.ot.android.start"
  | originTrialAndroidEnd => "browsers.chrome.ot.android.end"
  | devTrialDesktopStart => "browsers.chrome.devtrial.desktop.start"
  | devTrialAndroidStart => "browsers.chrome.devtrial.android.start"
  | rolloutMilestone => "rollout_milestone"

/-- The field of a name, whose ASCII letters may have any case. -/
def ofName? (name : String) : Option Field :=
  all.find? fun field => Text.lowerAscii field.spelling.toList == Text.lowerAscii name.toList

/-- No field is missing from the list of all. -/
theorem mem_all (field : Field) : field ∈ all := by
  cases field <;> decide

/-- A field is found by its spelling. -/
theorem ofName?_spelling (field : Field) : ofName? field.spelling = some field := by
  have key : ∀ field ∈ all, ofName? field.spelling = some field := by decide +kernel
  exact key field field.mem_all

/-- What a field is bound to. -/
def binding : Field → Binding
  | id => .primary .featureId
  | name => .unindexed .name
  | summary => .unindexed .summary
  | category => .enumerated .category .category
  | featureType => .enumerated .featureType .featureType
  | implStatusChrome => .enumerated .implStatusChrome .implStatus
  | intentStage => .enumerated .intentStage .intentStage
  | standardMaturity => .enumerated .standardMaturity .standardMaturity
  | owner => .primary .ownerEmails
  | editor => .primary .editorEmails
  | cc => .primary .ccEmails
  | creator => .primary .creatorEmail
  | blinkComponent => .primary .blinkComponents
  | createdWhen => .primary .created
  | updatedWhen => .primary .updated
  | accurateAsOf => .primary .accurateAsOf
  | shippingYear => .primary .shippingYear
  | starCount => .primary .starCount
  | desktop => .joined .desktopFirst shippingStages
  | android => .joined .androidFirst shippingStages
  | ios => .joined .iosFirst shippingStages
  | webview => .joined .webviewFirst shippingStages
  | originTrialDesktopStart => .joined .desktopFirst originTrialStages
  | originTrialDesktopEnd => .joined .desktopLast originTrialStages
  | originTrialAndroidStart => .joined .androidFirst originTrialStages
  | originTrialAndroidEnd => .joined .androidLast originTrialStages
  | devTrialDesktopStart => .joined .desktopFirst devTrialStages
  | devTrialAndroidStart => .joined .androidFirst devTrialStages
  | rolloutMilestone => .joined .rolloutMilestone rolloutStages

/-- A field that is bound to features asks the features, and any other one the stages. -/
theorem collection_binding (field : Field) :
    field.binding.collection = if field.binding.target = .primary then .feature else .stage := by
  cases field <;> rfl

end Field

end FeatureQuery
