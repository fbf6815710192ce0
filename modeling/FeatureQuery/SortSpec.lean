import FeatureQuery.Plan
import FeatureQuery.Record.Gate
import FeatureQuery.Text.Blank

/-!
# Sort specifications

A sort specification names a key, with a minus before it for descending order. Every query field is a key,
also one that cannot be filtered on; two more keys stand for the times at which reviews were requested and
decided.

## Main results

* `ofText_display`: a specification is read back from its display, unless its key has blanks at an end or
  starts with a minus.
* `SortKey.order_orderQuery`: the query of a key asks for the order of the key.
-/

namespace FeatureQuery

/-- A sort key as typed, with a direction. -/
structure SortSpec where
  key : String
  descending : Bool
  deriving DecidableEq

namespace SortSpec

/-- The specification that a trimmed text stands for. -/
def ofTrimmed : List Char → SortSpec
  | '-' :: key => ⟨String.ofList key, true⟩
  | key => ⟨String.ofList key, false⟩

/-- Reads a specification. Blanks around it do not count. -/
def ofText (text : String) : SortSpec :=
  ofTrimmed (Text.trim text.toList)

/-- How a specification is displayed. -/
def display (spec : SortSpec) : String :=
  if spec.descending then "-" ++ spec.key else spec.key

/-- A specification is read back from its display, unless this is padded or an ascending key starts with a minus. -/
theorem ofText_display {spec : SortSpec} (trimmed : Text.trim spec.display.toList = spec.display.toList)
    (plain : spec.descending = false → spec.key.toList.head? ≠ some '-') :
    ofText spec.display = spec := by
  obtain ⟨key, descending⟩ := spec
  rw [ofText, trimmed]
  cases descending with
  | true => simp [display, ofTrimmed, String.toList_append]
  | false =>
    have := plain rfl
    unfold ofTrimmed
    split
    · simp_all [display]
    · simp_all [display]

end SortSpec

/-- What results can be sorted by. -/
inductive SortKey where
  | field (field : Field)
  /-- When the review of a waiting gate was requested. -/
  | requestedOn
  /-- When a gate was decided. -/
  | reviewedOn
  deriving DecidableEq

namespace SortKey

/-- The key of a name, whose ASCII letters may have any case. -/
def ofName? (name : String) : Option SortKey :=
  match String.ofList (Text.lowerAscii name.toList) with
  | "gate.requested_on" => some requestedOn
  | "gate.reviewed_on" => some reviewedOn
  | name => (Field.ofName? name).map field

/-- The query for the gates in some states. -/
def gatesIn (states : List Int64) : StoreQuery :=
  (StoreQuery.all .gate).filter (.oneOf .gateState (states.map .int))

/-- The store query that gives the features in the order of the key. -/
def orderQuery (descending : Bool) : SortKey → StoreQuery
  | requestedOn => (gatesIn Gate.pendingStates).orderBy .requestedOn descending
  | reviewedOn => (gatesIn Gate.finalStates).orderBy .resolvedOn descending
  | field f => f.binding.base.orderBy f.binding.property descending

/-- The query of a key asks for the direction that is given. -/
theorem order_orderQuery (descending : Bool) (key : SortKey) :
    ((key.orderQuery descending).order.map (·.descending)) = some descending := by
  cases key <;> rfl

end SortKey

end FeatureQuery
