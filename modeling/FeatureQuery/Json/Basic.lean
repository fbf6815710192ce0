import FeatureQuery.Number.Double

/-!
# JSON values

A JSON value as it is written: objects keep their fields in order with every repetition, and a string
literal whose escapes leave half a surrogate pair, which is well formed but denotes no text, is kept
apart.

Integers are kept exactly within the signed and the unsigned 64-bit range. All other numbers are a
significand of 64 bits with a power of ten, which determines the double precision number they stand for.

## Main results

* `depth_lt_array`, `depth_lt_object`: a value is nested deeper than any value in it.
-/

namespace FeatureQuery

open FeatureQuery.Number (Double tenPow)

/-- A JSON number. -/
inductive Json.Number where
  /-- An integer from `-2 ^ 63` on and below `2 ^ 64`. -/
  | integer (n : Int)
  /-- `± significand * 10 ^ exponent`, where the significand has at most 64 bits. -/
  | real (negative : Bool) (significand : Nat) (exponent : Int)
  deriving DecidableEq

/-- A JSON value. -/
inductive Json where
  | null
  | bool (b : Bool)
  | number (n : Json.Number)
  /-- A string literal; `none` if it denotes no text. -/
  | string (s : Option String)
  | array (items : List Json)
  | object (fields : List (Option String × Json))

namespace Json

/-! ### Numbers -/

/-- The magnitude of a finite number, in units. -/
def Number.unitsOf : Double → Nat
  | .finite _ units => units
  | _ => 0

/-- A power of ten, rounded. -/
def Number.powerOfTen (exponent : Nat) : Nat :=
  unitsOf (Double.ofRatio false (tenPow exponent) 1)

/-- The double precision number that a JSON number stands for. The significand is rounded, then multiplied
or divided by rounded powers of ten up to `10 ^ 308`. There is none beyond the finite numbers. -/
def Number.toDouble? : Number → Option Double
  | .integer n => some (Double.ofInt n)
  | .real negative significand exponent =>
    let units := unitsOf (Double.ofRatio false significand 1)
    let divided (units exponent : Nat) := Double.ofRatio negative units (powerOfTen exponent)
    if significand = 0 then some (.finite negative 0)
    else if 308 < exponent then none
    else if 0 ≤ exponent then
      match Double.ofRatio negative (units * powerOfTen exponent.toNat) (1 <<< (2 * Double.unitExponent)) with
      | .infinity _ => none
      | x => some x
    else if -308 ≤ exponent then some (divided units (-exponent).toNat)
    else if -616 ≤ exponent then
      some (divided (unitsOf (divided units 308)) (-exponent - 308).toNat)
    else some (.finite negative 0)

/-! ### Construction -/

/-- The JSON string of a text. -/
def text (s : String) : Json :=
  .string (some s)

/-- The JSON number of an integer. -/
def int (n : Int) : Json :=
  .number (.integer n)

/-- The object with the given fields. -/
def obj (fields : List (String × Json)) : Json :=
  .object (fields.map fun (name, value) => (some name, value))

/-- A value that may be absent, as `null`. -/
def orNull (value : Option Json) : Json :=
  value.getD .null

/-! ### Plain values -/

mutual

/-- The nesting of arrays and objects. -/
def depth : Json → Nat
  | .array items => depthItems items + 1
  | .object fields => depthFields fields + 1
  | _ => 0

/-- The greatest nesting among the items of an array. -/
def depthItems : List Json → Nat
  | [] => 0
  | item :: items => max item.depth (depthItems items)

/-- The greatest nesting among the fields of an object. -/
def depthFields : List (Option String × Json) → Nat
  | [] => 0
  | (_, value) :: fields => max value.depth (depthFields fields)

end

/-- An array is nested deeper than its items. -/
theorem depth_lt_array {items : List Json} {item : Json} (h : item ∈ items) : item.depth < depth (.array items) := by
  have hle : item.depth ≤ depthItems items := by
    induction items with
    | nil => exact absurd h List.not_mem_nil
    | cons first rest ih =>
      rw [depthItems]
      rcases List.mem_cons.1 h with rfl | h
      · exact Nat.le_max_left _ _
      · exact Nat.le_trans (ih h) (Nat.le_max_right _ _)
  rw [depth]
  exact Nat.lt_succ_of_le hle

/-- The fields of an object are as deep as an array of their values. -/
theorem depthFields_eq (fields : List (Option String × Json)) :
    depthFields fields = depthItems (fields.map (·.2)) := by
  induction fields with
  | nil => rfl
  | cons field fields ih => rw [depthFields, ih, List.map_cons, depthItems]

/-- An object is nested deeper than the values of its fields. -/
theorem depth_lt_object {fields : List (Option String × Json)} {field : Option String × Json} (h : field ∈ fields) :
    field.2.depth < depth (.object fields) := by
  have hlt : field.2.depth < depth (.array (fields.map (·.2))) := depth_lt_array (List.mem_map_of_mem h)
  rwa [depth, ← depthFields_eq, ← depth] at hlt

mutual

/-- All strings denote texts and all numbers are within range. -/
def isDenoting : Json → Bool
  | .number n => n.toDouble?.isSome
  | .string s => s.isSome
  | .array items => isDenotingItems items
  | .object fields => isDenotingFields fields
  | _ => true

/-- Every item of an array denotes. -/
def isDenotingItems : List Json → Bool
  | [] => true
  | item :: items => item.isDenoting && isDenotingItems items

/-- Every name and value of an object denotes. -/
def isDenotingFields : List (Option String × Json) → Bool
  | [] => true
  | (name, value) :: fields => name.isSome && value.isDenoting && isDenotingFields fields

end

/-- A value that can be kept without knowing what it describes: everything in it denotes something and
it is nested less than 128 deep. -/
def isPlain (json : Json) : Bool :=
  json.isDenoting && json.depth < 128

end Json

end FeatureQuery
