import FeatureQuery.Record.Basic

/-!
# Gates

The reviews that a feature's stages have to pass.

## Main results

* `Gate.not_pending_of_final`: no state is both waiting and decided.
-/

namespace FeatureQuery

open FeatureQuery.Time (Instant)

/-- A review of a stage. -/
structure Gate where
  id : Int64
  featureId : Int64
  stageId : Int64
  gateType : Int64
  state : Int64
  requestedOn : Option Instant
  resolvedOn : Option Instant
  deriving DecidableEq

namespace Gate

/-- The states in which a review waits for a reviewer. -/
def pendingStates : List Int64 := [2, 3, 4, 8, 9]

/-- The states in which a review is decided. -/
def finalStates : List Int64 := [1, 5, 6]

/-- No state is both waiting and decided. -/
theorem not_pending_of_final : ∀ state ∈ finalStates, state ∉ pendingStates := by
  simp [finalStates, pendingStates]

/-- The values of a gate. -/
def values (gate : Gate) : Property → List Value
  | .gateFeatureId => [.int gate.featureId]
  | .gateType => [.int gate.gateType]
  | .gateState => [.int gate.state]
  | .requestedOn => Record.optionalValue .instant gate.requestedOn
  | .resolvedOn => Record.optionalValue .instant gate.resolvedOn
  | _ => []

instance : Record Gate where
  collection := .gate
  featureId := Gate.featureId
  values := Gate.values

/-! ### JSON -/

/-- The names of the fields, in order. -/
def fieldNames : List String :=
  ["id", "feature_id", "stage_id", "gate_type", "state", "requested_on", "resolved_on"]

/-- Reads a gate. Its stage and its times may be missing. -/
def ofJson? (json : Json) : Option Gate := do
  let fields ← json.fieldsOf? fieldNames
  let time (name : String) := fields.withDefault name (Json.nullable? Json.instantValue?) none
  return {
    id := ← fields.required "id" Json.int64Value?
    featureId := ← fields.required "feature_id" Json.int64Value?
    stageId := ← fields.withDefault "stage_id" Json.int64Value? 0
    gateType := ← fields.required "gate_type" Json.int64Value?
    state := ← fields.required "state" Json.int64Value?
    requestedOn := ← time "requested_on"
    resolvedOn := ← time "resolved_on" }

/-- Writes a gate with all its fields. -/
def toJson (gate : Gate) : Json :=
  .obj
    [("id", .int64 gate.id), ("feature_id", .int64 gate.featureId), ("stage_id", .int64 gate.stageId),
     ("gate_type", .int64 gate.gateType), ("state", .int64 gate.state),
     ("requested_on", .orNull (gate.requestedOn.map .instant)),
     ("resolved_on", .orNull (gate.resolvedOn.map .instant))]

end Gate

end FeatureQuery
