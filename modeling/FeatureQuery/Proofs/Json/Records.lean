import FeatureQuery.Proofs.Json.Objects
import FeatureQuery.Record.Feature
import FeatureQuery.Record.Gate
import FeatureQuery.Record.Stage
import FeatureQuery.Record.Star

/-!
# Records in JSON

What is written for a record is an object with all fields of the record, each under its name and in the one form that
is read as its value. So the record is read back, whether its fields are needed, have defaults or may be absent.

## Main results

* `Json.exists_fieldsOf?`: the fields of a record are read from an object with its names.
* `Json.nullable?_orNull`: a value that may be absent is read back.
* `Feature.ofJson?_toJson`, `Stage.ofJson?_toJson`, `Gate.ofJson?_toJson`, `Star.ofJson?_toJson`: so are the records.
-/

namespace FeatureQuery

open FeatureQuery.Time (Instant)

namespace Json

/-- From an object with exactly the names of a record, each field is read as what stands under its name, whether it has
a default or not. -/
theorem exists_fieldsOf? {json : Json} {names : List String} {fields : List (String × Json)}
    (hjson : json = .obj fields) (hnames : fields.map Prod.fst = names) (hnodup : names.Nodup) :
    ∃ known : Fields, fieldsOf? names json = some known
      ∧ ∀ {α : Type} {name : String} {value : Json} {read : Json → Option α} {x : α},
        (name, value) ∈ fields → read value = some x →
          known.required name read = some x ∧ ∀ default, known.withDefault name read default = some x := by
  subst hjson hnames
  refine ⟨fields, ?_, ?_⟩
  · rw [obj, fieldsOf?, knownFields?_of_nodup hnodup, List.filter_eq_self.2]
    intro field hfield
    exact List.contains_iff_mem.2 (List.mem_map_of_mem hfield)
  · intro α name value read x hmem hread
    have hlookup := (lookup_eq_some_iff_mem hnodup).2 hmem
    constructor
    · rw [Fields.required, hlookup, Option.bind_some, hread]
    · intro default
      rw [Fields.withDefault, hlookup]
      exact hread

/-- A truth value is read back. -/
theorem boolValue?_bool (b : Bool) : boolValue? (.bool b) = some b := rfl

/-- A list of texts is read back. -/
theorem listValue?_texts (values : List String) : listValue? textValue? (.texts values) = some values :=
  listValue?_texts_iff.2 rfl

/-- A value that may be absent is read back, if a value that is present is and is not written as `null`. -/
theorem nullable?_orNull {α : Type} {read : Json → Option α} {write : α → Json} (h : ∀ x, read (write x) = some x)
    (hnull : ∀ x, write x ≠ .null) (x : Option α) : nullable? read (.orNull (x.map write)) = some x := by
  cases x with
  | none => rfl
  | some x =>
      rw [Option.map_some, orNull, Option.getD_some, nullable?.eq_2 _ _ (hnull x), h, Option.map_some]

/-- A 64-bit integer that may be absent is read back. -/
theorem nullable?_int64 (n : Option Int64) : nullable? int64Value? (.orNull (n.map .int64)) = some n :=
  nullable?_orNull int64Value?_int64 nofun n

/-- So is a text that may be absent. -/
theorem nullable?_text (s : Option String) : nullable? textValue? (.orNull (s.map .text)) = some s :=
  nullable?_orNull textValue?_text nofun s

/-- So is an instant that may be absent. -/
theorem nullable?_instant (t : Option Instant) : nullable? instantValue? (.orNull (t.map .instant)) = some t :=
  nullable?_orNull instantValue?_instant (fun u => by simp [instant, text]) t

end Json

/-- A feature is read back. -/
theorem Feature.ofJson?_toJson (feature : Feature) : Feature.ofJson? feature.toJson = some feature := by
  obtain ⟨known, hknown, hread⟩ := Json.exists_fieldsOf? (show feature.toJson = .obj _ from rfl)
    (show _ = Feature.fieldNames from rfl) (by decide)
  rw [ofJson?, hknown]
  refine Option.bind_eq_some_iff.2 ⟨known, rfl, ?_⟩
  refine Option.bind_eq_some_iff.2 ⟨_, (hread (by simp) (Json.int64Value?_int64 feature.id)).1, ?_⟩
  refine Option.bind_eq_some_iff.2 ⟨_, (hread (by simp) (Json.textValue?_text feature.name)).1, ?_⟩
  refine Option.bind_eq_some_iff.2 ⟨_, (hread (by simp) (Json.textValue?_text feature.summary)).2 _, ?_⟩
  refine Option.bind_eq_some_iff.2 ⟨_, (hread (by simp) (Json.int64Value?_int64 feature.category)).2 _, ?_⟩
  refine Option.bind_eq_some_iff.2 ⟨_, (hread (by simp) (Json.int64Value?_int64 feature.featureType)).2 _, ?_⟩
  refine Option.bind_eq_some_iff.2 ⟨_, (hread (by simp) (Json.int64Value?_int64 feature.implStatusChrome)).2 _, ?_⟩
  refine Option.bind_eq_some_iff.2 ⟨_, (hread (by simp) (Json.int64Value?_int64 feature.intentStage)).2 _, ?_⟩
  refine Option.bind_eq_some_iff.2 ⟨_, (hread (by simp) (Json.int64Value?_int64 feature.standardMaturity)).2 _, ?_⟩
  refine Option.bind_eq_some_iff.2 ⟨_, (hread (by simp) (Json.listValue?_texts feature.ownerEmails)).2 _, ?_⟩
  refine Option.bind_eq_some_iff.2 ⟨_, (hread (by simp) (Json.listValue?_texts feature.editorEmails)).2 _, ?_⟩
  refine Option.bind_eq_some_iff.2 ⟨_, (hread (by simp) (Json.listValue?_texts feature.ccEmails)).2 _, ?_⟩
  refine Option.bind_eq_some_iff.2 ⟨_, (hread (by simp) (Json.nullable?_text feature.creatorEmail)).2 _, ?_⟩
  refine Option.bind_eq_some_iff.2 ⟨_, (hread (by simp) (Json.listValue?_texts feature.blinkComponents)).2 _, ?_⟩
  refine Option.bind_eq_some_iff.2 ⟨_, (hread (by simp) (Json.instantValue?_instant feature.created)).1, ?_⟩
  refine Option.bind_eq_some_iff.2 ⟨_, (hread (by simp) (Json.instantValue?_instant feature.updated)).1, ?_⟩
  refine Option.bind_eq_some_iff.2 ⟨_, (hread (by simp) (Json.nullable?_instant feature.accurateAsOf)).2 _, ?_⟩
  refine Option.bind_eq_some_iff.2 ⟨_, (hread (by simp) (Json.nullable?_int64 feature.shippingYear)).2 _, ?_⟩
  refine Option.bind_eq_some_iff.2 ⟨_, (hread (by simp) (Json.int64Value?_int64 feature.starCount)).2 _, ?_⟩
  refine Option.bind_eq_some_iff.2 ⟨_, (hread (by simp) (Json.boolValue?_bool feature.deleted)).2 _, ?_⟩
  exact Option.bind_eq_some_iff.2 ⟨_, (hread (by simp) (Json.boolValue?_bool feature.unlisted)).2 _, rfl⟩

/-- A stage is read back. -/
theorem Stage.ofJson?_toJson (stage : Stage) : Stage.ofJson? stage.toJson = some stage := by
  obtain ⟨known, hknown, hread⟩ := Json.exists_fieldsOf? (show stage.toJson = .obj _ from rfl)
    (show _ = Stage.fieldNames from rfl) (by decide)
  rw [ofJson?, hknown]
  refine Option.bind_eq_some_iff.2 ⟨known, rfl, ?_⟩
  refine Option.bind_eq_some_iff.2 ⟨_, (hread (by simp) (Json.int64Value?_int64 stage.id)).1, ?_⟩
  refine Option.bind_eq_some_iff.2 ⟨_, (hread (by simp) (Json.int64Value?_int64 stage.featureId)).1, ?_⟩
  refine Option.bind_eq_some_iff.2 ⟨_, (hread (by simp) (Json.int64Value?_int64 stage.stageType)).1, ?_⟩
  refine Option.bind_eq_some_iff.2 ⟨_, (hread (by simp) (Json.nullable?_int64 stage.desktopFirst)).2 _, ?_⟩
  refine Option.bind_eq_some_iff.2 ⟨_, (hread (by simp) (Json.nullable?_int64 stage.desktopLast)).2 _, ?_⟩
  refine Option.bind_eq_some_iff.2 ⟨_, (hread (by simp) (Json.nullable?_int64 stage.androidFirst)).2 _, ?_⟩
  refine Option.bind_eq_some_iff.2 ⟨_, (hread (by simp) (Json.nullable?_int64 stage.androidLast)).2 _, ?_⟩
  refine Option.bind_eq_some_iff.2 ⟨_, (hread (by simp) (Json.nullable?_int64 stage.iosFirst)).2 _, ?_⟩
  refine Option.bind_eq_some_iff.2 ⟨_, (hread (by simp) (Json.nullable?_int64 stage.webviewFirst)).2 _, ?_⟩
  exact Option.bind_eq_some_iff.2 ⟨_, (hread (by simp) (Json.nullable?_int64 stage.rolloutMilestone)).2 _, rfl⟩

/-- A gate is read back. -/
theorem Gate.ofJson?_toJson (gate : Gate) : Gate.ofJson? gate.toJson = some gate := by
  obtain ⟨known, hknown, hread⟩ := Json.exists_fieldsOf? (show gate.toJson = .obj _ from rfl)
    (show _ = Gate.fieldNames from rfl) (by decide)
  rw [ofJson?, hknown]
  refine Option.bind_eq_some_iff.2 ⟨known, rfl, ?_⟩
  refine Option.bind_eq_some_iff.2 ⟨_, (hread (by simp) (Json.int64Value?_int64 gate.id)).1, ?_⟩
  refine Option.bind_eq_some_iff.2 ⟨_, (hread (by simp) (Json.int64Value?_int64 gate.featureId)).1, ?_⟩
  refine Option.bind_eq_some_iff.2 ⟨_, (hread (by simp) (Json.int64Value?_int64 gate.stageId)).2 _, ?_⟩
  refine Option.bind_eq_some_iff.2 ⟨_, (hread (by simp) (Json.int64Value?_int64 gate.gateType)).1, ?_⟩
  refine Option.bind_eq_some_iff.2 ⟨_, (hread (by simp) (Json.int64Value?_int64 gate.state)).1, ?_⟩
  refine Option.bind_eq_some_iff.2 ⟨_, (hread (by simp) (Json.nullable?_instant gate.requestedOn)).2 _, ?_⟩
  exact Option.bind_eq_some_iff.2 ⟨_, (hread (by simp) (Json.nullable?_instant gate.resolvedOn)).2 _, rfl⟩

/-- A star is read back. -/
theorem Star.ofJson?_toJson (star : Star) : Star.ofJson? star.toJson = some star := by
  obtain ⟨known, hknown, hread⟩ := Json.exists_fieldsOf? (show star.toJson = .obj _ from rfl)
    (show _ = Star.fieldNames from rfl) (by decide)
  rw [ofJson?, hknown]
  refine Option.bind_eq_some_iff.2 ⟨known, rfl, ?_⟩
  refine Option.bind_eq_some_iff.2 ⟨_, (hread (by simp) (Json.textValue?_text star.email)).1, ?_⟩
  refine Option.bind_eq_some_iff.2 ⟨_, (hread (by simp) (Json.int64Value?_int64 star.featureId)).1, ?_⟩
  exact Option.bind_eq_some_iff.2 ⟨_, (hread (by simp) (Json.boolValue?_bool star.starred)).2 _, rfl⟩

end FeatureQuery
