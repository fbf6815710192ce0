import FeatureQuery.Json.Basic
import FeatureQuery.Number.Integer
import FeatureQuery.Time.Rfc3339

/-!
# Records in JSON

A record with named fields is read from an object or from an array of its values in order. In an object
other names are ignored and no name of the record may occur twice; in an array values may be missing at
the end, and none may be left over.

## Main results

* `fieldsOf?_array`: an array gives its values to the names in order.
* `withDefault_of_absent`: an absent field takes its default.
* `int64Value?_int64`, `textValue?_text`: integers and texts are read back from what is written.
-/

namespace FeatureQuery.Json

open FeatureQuery.Number (int64?)
open FeatureQuery.Time (Instant)

/-- The fields of a record that are present, by name. -/
abbrev Fields := List (String × Json)

/-- The named fields that an object holds; `none` if one of them occurs twice or if any name denotes no
text. -/
def knownFields? (names : List String) : List (Option String × Json) → Option Fields
  | [] => some []
  | (none, _) :: _ => none
  | (some name, value) :: rest => do
    let known ← knownFields? names rest
    if !names.contains name then return known
    else if (known.lookup name).isSome then none
    else return (name, value) :: known

/-- The fields of a record with the given names. -/
def fieldsOf? (names : List String) : Json → Option Fields
  | .object fields => knownFields? names fields
  | .array items => if items.length ≤ names.length then some (names.zip items) else none
  | _ => none

/-- An array gives its values to the names in order. -/
theorem fieldsOf?_array {names : List String} {items : List Json}
    (h : items.length ≤ names.length) : fieldsOf? names (.array items) = some (names.zip items) := by
  simp [fieldsOf?, h]

/-- A field that must be present. -/
def Fields.required (fields : Fields) (name : String) (read : Json → Option α) : Option α :=
  (fields.lookup name).bind read

/-- A field that takes a default when it is absent. -/
def Fields.withDefault (fields : Fields) (name : String) (read : Json → Option α) (default : α) :
    Option α :=
  match fields.lookup name with
  | some value => read value
  | none => some default

/-- An absent field takes its default. -/
theorem withDefault_of_absent {fields : Fields} {name : String} (read : Json → Option α) (default : α)
    (h : fields.lookup name = none) : fields.withDefault name read default = some default := by
  simp [Fields.withDefault, h]

/-! ### Readers of values -/

/-- A value that may be `null`. -/
def nullable? (read : Json → Option α) : Json → Option (Option α)
  | .null => some none
  | value => (read value).map some

/-- A 64-bit integer. -/
def int64Value? : Json → Option Int64
  | .number (.integer n) => int64? n
  | _ => none

/-- A natural number of 64 bits. -/
def uint64Value? : Json → Option UInt64
  | .number (.integer n) => if 0 ≤ n then some (UInt64.ofNat n.toNat) else none
  | _ => none

/-- A truth value. -/
def boolValue? : Json → Option Bool
  | .bool b => some b
  | _ => none

/-- A text. -/
def textValue? : Json → Option String
  | .string s => s
  | _ => none

/-- An instant, written as text. -/
def instantValue? (json : Json) : Option Instant :=
  (textValue? json).bind fun s => Instant.read? s.toList

/-- A list of values. -/
def listValue? (read : Json → Option α) : Json → Option (List α)
  | .array items => items.mapM read
  | _ => none

/-! ### Writers of values -/

/-- The JSON number of a 64-bit integer. -/
def int64 (n : Int64) : Json :=
  int n.toInt

/-- The JSON string of an instant. -/
def instant (t : Instant) : Json :=
  text t.zuluText

/-- The JSON array of texts. -/
def texts (values : List String) : Json :=
  .array (values.map text)

/-- A 64-bit integer is read back. -/
theorem int64Value?_int64 (n : Int64) : int64Value? (int64 n) = some n := by
  simp [int64Value?, int64, int, Number.int64?_eq_some_iff]

/-- A text is read back. -/
theorem textValue?_text (s : String) : textValue? (text s) = some s := rfl

end FeatureQuery.Json
