import FeatureQuery.Record.Feature

/-!
# Result pages

A page shows a window of the matches, each with a summary or with its id and name only, and the number of
all matches. An entry in JSON carries no mark of its form: it has a summary if all fields of one can be
read.

## Main results

* `Entry.id_ofFeature`: an entry has the id of its feature.
* `Entry.ofJson?_summary`: an entry that can be read with a summary is.
-/

namespace FeatureQuery

open FeatureQuery.Time (Instant)

/-- The part of a feature that is shown on a page. -/
structure Summary where
  id : Int64
  name : String
  summary : String
  category : Int64
  featureType : Int64
  implStatusChrome : Int64
  created : Instant
  updated : Instant
  ownerEmails : List String
  deriving DecidableEq

namespace Summary

/-- The summary of a feature. -/
def ofFeature (feature : Feature) : Summary where
  id := feature.id
  name := feature.name
  summary := feature.summary
  category := feature.category
  featureType := feature.featureType
  implStatusChrome := feature.implStatusChrome
  created := feature.created
  updated := feature.updated
  ownerEmails := feature.ownerEmails

/-- The names of the fields, in order. -/
def fieldNames : List String :=
  ["id", "name", "summary", "category", "feature_type", "impl_status_chrome", "created", "updated",
   "owner_emails"]

/-- Reads a summary, which needs all its fields. -/
def ofJson? (json : Json) : Option Summary := do
  let fields ← json.fieldsOf? fieldNames
  return {
    id := ← fields.required "id" Json.int64Value?
    name := ← fields.required "name" Json.textValue?
    summary := ← fields.required "summary" Json.textValue?
    category := ← fields.required "category" Json.int64Value?
    featureType := ← fields.required "feature_type" Json.int64Value?
    implStatusChrome := ← fields.required "impl_status_chrome" Json.int64Value?
    created := ← fields.required "created" Json.instantValue?
    updated := ← fields.required "updated" Json.instantValue?
    ownerEmails := ← fields.required "owner_emails" (Json.listValue? Json.textValue?) }

/-- Writes a summary. -/
def toJson (summary : Summary) : Json :=
  .obj
    [("id", .int64 summary.id), ("name", .text summary.name), ("summary", .text summary.summary),
     ("category", .int64 summary.category), ("feature_type", .int64 summary.featureType),
     ("impl_status_chrome", .int64 summary.implStatusChrome), ("created", .instant summary.created),
     ("updated", .instant summary.updated), ("owner_emails", .texts summary.ownerEmails)]

end Summary

/-- An entry of a page. -/
inductive Entry where
  | full (summary : Summary)
  | nameOnly (id : Int64) (name : String)
  deriving DecidableEq

namespace Entry

/-- The entry of a feature. -/
def ofFeature (namesOnly : Bool) (feature : Feature) : Entry :=
  if namesOnly then .nameOnly feature.id feature.name else .full (.ofFeature feature)

/-- The id of the feature that an entry shows. -/
def id : Entry → Int64
  | full summary => summary.id
  | nameOnly id _ => id

/-- In either form an entry has the id of its feature. -/
theorem id_ofFeature (namesOnly : Bool) (feature : Feature) :
    (ofFeature namesOnly feature).id = feature.id := by
  cases namesOnly <;> rfl

/-- Reads an id and a name, which only an object can hold. -/
def nameOnlyOfJson? : Json → Option Entry
  | .object fields => do
    let fields ← Json.knownFields? ["id", "name"] fields
    return .nameOnly (← fields.required "id" Json.int64Value?)
      (← fields.required "name" Json.textValue?)
  | _ => none

/-- Reads an entry. -/
def ofJson? (json : Json) : Option Entry :=
  match Summary.ofJson? json with
  | some summary => some (.full summary)
  | none => nameOnlyOfJson? json

/-- An entry that can be read with a summary is. -/
theorem ofJson?_summary {json : Json} {summary : Summary} (h : Summary.ofJson? json = some summary) :
    ofJson? json = some (.full summary) := by
  simp [ofJson?, h]

/-- Writes an entry. -/
def toJson : Entry → Json
  | full summary => summary.toJson
  | nameOnly id name => .obj [("id", .int64 id), ("name", .text name)]

end Entry

/-- A page of results. -/
structure Page where
  entries : List Entry
  /-- The number of matches in all. -/
  total : UInt64
  deriving DecidableEq

namespace Page

/-- The ids of the entries, in order. -/
def ids (page : Page) : List Int64 :=
  page.entries.map (·.id)

/-- The names of the fields, in order. -/
def fieldNames : List String := ["features", "total_count"]

/-- Reads a page. -/
def ofJson? (json : Json) : Option Page := do
  let fields ← json.fieldsOf? fieldNames
  return ⟨← fields.required "features" (Json.listValue? Entry.ofJson?),
    ← fields.required "total_count" Json.uint64Value?⟩

/-- Writes a page. -/
def toJson (page : Page) : Json :=
  .obj [("features", .array (page.entries.map (·.toJson))), ("total_count", .int page.total.toNat)]

end Page

end FeatureQuery
