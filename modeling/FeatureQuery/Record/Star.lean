import FeatureQuery.Record.Basic

/-!
# Stars

A star marks a feature as a favourite of a person, or records that it no longer is.
-/

namespace FeatureQuery

/-- A person's star on a feature. -/
structure Star where
  email : String
  featureId : Int64
  starred : Bool
  deriving DecidableEq

namespace Star

/-- The values of a star. -/
def values (star : Star) : Property → List Value
  | .starFeatureId => [.int star.featureId]
  | .starEmail => [.text star.email]
  | .starred => [.bool star.starred]
  | _ => []

instance : Record Star where
  collection := .star
  featureId := Star.featureId
  values := Star.values

/-! ### JSON -/

/-- The names of the fields, in order. -/
def fieldNames : List String := ["email", "feature_id", "starred"]

/-- Reads a star, which is set unless it says otherwise. -/
def ofJson? (json : Json) : Option Star := do
  let fields ← json.fieldsOf? fieldNames
  return {
    email := ← fields.required "email" Json.textValue?
    featureId := ← fields.required "feature_id" Json.int64Value?
    starred := ← fields.withDefault "starred" Json.boolValue? true }

/-- Writes a star with all its fields. -/
def toJson (star : Star) : Json :=
  .obj
    [("email", .text star.email), ("feature_id", .int64 star.featureId),
     ("starred", .bool star.starred)]

end Star

end FeatureQuery
