import FeatureQuery.Json.Fields
import FeatureQuery.Number.Double.Shortest
import FeatureQuery.Text.Quoted

/-!
# Values

A value is what a record holds for a property and what a filter compares with. Integers and floats
compare as numbers, an integer first being rounded to the nearest float; values of other different kinds
do not compare, so a filter with an operand of the wrong kind matches nothing.

## Main results

* `Value.kind_of_order`: values that compare are of one kind, or both are numbers.
* `Value.order_text`: texts compare by their characters' code points.
-/

namespace FeatureQuery

open FeatureQuery.Number (Double showInt64)
open FeatureQuery.Time (Instant)

/-- The kinds of values. -/
inductive ValueKind where
  | int | float | instant | bool | text
  deriving DecidableEq

/-- A typed value. -/
inductive Value where
  /-- An integer, a milestone, an identifier or the code of an enumeration. -/
  | int (n : Int64)
  | float (x : Double)
  | instant (t : Instant)
  | bool (b : Bool)
  | text (s : String)
  deriving DecidableEq

namespace Value

/-- The kind of a value. -/
def kind : Value → ValueKind
  | int _ => .int
  | float _ => .float
  | instant _ => .instant
  | bool _ => .bool
  | text _ => .text

/-- The order of two values, if they compare. -/
def order : Value → Value → Option Ordering
  | int a, int b => some (compare a b)
  | float a, float b => a.order b
  | int a, float b => (Double.ofInt a.toInt).order b
  | float a, int b => a.order (Double.ofInt b.toInt)
  | instant a, instant b => some (a.order b)
  | bool a, bool b => some (compare a b)
  | text a, text b => some (compare a b)
  | _, _ => none

/-- Texts compare in the order of their characters. -/
theorem order_text (a b : String) : (text a).order (text b) = some (compare a b) := rfl

/-- Values that compare are of one kind, or an integer and a float. -/
theorem kind_of_order {a b : Value} {o : Ordering} (h : a.order b = some o) :
    a.kind = b.kind ∨ (a.kind = .int ∧ b.kind = .float) ∨ (a.kind = .float ∧ b.kind = .int) := by
  cases a <;> cases b <;> simp_all [order, kind]

/-- The display of a value: texts are quoted. -/
def display : Value → String
  | int n => showInt64 n
  | float x => x.text
  | instant t => t.text
  | bool b => if b then "true" else "false"
  | text s => Text.quote s

/-- Reads a value from JSON. An integer within 64 bits is an integer, any other number a float, and a
string that denotes an instant is one. -/
def ofJson? : Json → Option Value
  | .number n =>
    match Json.int64Value? (.number n) with
    | some i => some (int i)
    | none => n.toDouble?.map float
  | .string (some s) =>
    match Instant.read? s.toList with
    | some t => some (instant t)
    | none => some (text s)
  | .bool b => some (bool b)
  | _ => none

end Value

end FeatureQuery
