import FeatureQuery.Json.Fields
import FeatureQuery.Proofs.Time.Rfc3339

/-!
# Fields of objects

In an object without repeated names a field is whatever stands under its name, wherever it stands and whatever else the
object holds. What is written for a value is the one thing that is read as the value; only instants have several texts.

## Main results

* `lookup_eq_some_iff_mem`: without repeated names a field is found where it stands.
* `exists_knownFields?`: the fields of a record are read from an object of any order.
* `int64Value?_eq_some_iff`, `textValue?_eq_some_iff`, `listValue?_texts_iff`: there is one form of a value.
* `instantValue?_instant`, `uint64Value?_toNat`, `listValue?_map`: instants, counts and lists are read back.
* `exists_readFrom`: a field of a record is read if the value under its name has the form of the field.
-/

namespace FeatureQuery.Json

open FeatureQuery.Number (int64?_eq_some_iff)
open FeatureQuery.Time (Instant)

/-! ### Objects -/

section Objects

variable {fields : List (String × Json)} (h : (fields.map Prod.fst).Nodup)

include h

/-- Without repeated names a field is found where it stands. -/
theorem lookup_eq_some_iff_mem {name : String} {value : Json} :
    fields.lookup name = some value ↔ (name, value) ∈ fields := by
  rw [List.lookup_eq_some_iff]
  constructor
  · rintro ⟨before, after, rfl, -⟩
    exact List.mem_append_right _ List.mem_cons_self
  · intro hmem
    obtain ⟨before, after, rfl⟩ := List.append_of_mem hmem
    refine ⟨before, after, rfl, ?_⟩
    intro field hfield
    rw [List.map_append, List.map_cons] at h
    exact bne_iff_ne.2 ((List.nodup_append.1 h).2.2 _ (List.mem_map_of_mem hfield) _ List.mem_cons_self).symm

/-- Without repeated names all fields that a record knows are kept. -/
theorem knownFields?_of_nodup (names : List String) :
    knownFields? names (fields.map fun (name, value) => (some name, value))
      = some (fields.filter fun field => names.contains field.1) := by
  induction fields with
  | nil => rfl
  | cons field fields ih =>
      obtain ⟨name, value⟩ := field
      obtain ⟨hname, hfields⟩ := List.nodup_cons.1 h
      have habsent : (fields.filter fun field => names.contains field.1).lookup name = none := by
        rw [List.lookup_eq_none_iff]
        intro field hfield
        have hmem : field.1 ∈ fields.map Prod.fst := List.mem_map_of_mem (List.mem_filter.1 hfield).1
        rw [bne_iff_ne]
        rintro rfl
        exact hname hmem
      rw [List.map_cons, knownFields?, ih hfields, List.filter_cons]
      cases hknown : names.contains name with
      | true =>
          simp only [Option.bind_eq_bind, Option.bind_some, habsent, Option.isSome_none]
          rfl
      | false => rfl

/-- The fields of a record are read from an object, in whatever order they stand and whatever stands between them. -/
theorem exists_knownFields? (names : List String) :
    ∃ known : Fields, knownFields? names (fields.map fun (name, value) => (some name, value)) = some known
      ∧ ∀ {α : Type} (name) (read : Json → Option α) (x : α), name ∈ names →
        (known.required name read = some x ↔ ∃ value, (name, value) ∈ fields ∧ read value = some x) := by
  refine ⟨_, knownFields?_of_nodup h names, ?_⟩
  intro α name read x hname
  have hkept : ((fields.filter fun field => names.contains field.1).map Prod.fst).Nodup :=
    h.sublist (List.filter_sublist.map Prod.fst)
  rw [Fields.required, Option.bind_eq_some_iff]
  refine exists_congr fun value => and_congr_left fun _ => ?_
  rw [lookup_eq_some_iff_mem hkept, List.mem_filter, List.contains_iff_mem]
  exact and_iff_left hname

end Objects

/-! ### Values -/

/-- A 64-bit integer is read from its number only. -/
theorem int64Value?_eq_some_iff {json : Json} {n : Int64} : int64Value? json = some n ↔ json = .int64 n := by
  constructor
  · intro h
    match json with
    | .number (.integer m) => rw [int64, int, int64?_eq_some_iff.1 h]
  · rintro rfl
    exact int64Value?_int64 n

/-- A text is read from its string only. -/
theorem textValue?_eq_some_iff {json : Json} {s : String} : textValue? json = some s ↔ json = .text s := by
  constructor
  · intro h
    match json with
    | .string t => rw [text, ← h, textValue?]
  · rintro rfl
    rfl

/-- An instant is read from the texts that denote it. -/
theorem instantValue?_eq_some_iff {json : Json} {t : Instant} :
    instantValue? json = some t ↔ ∃ s, json = .text s ∧ Instant.read? s.toList = some t := by
  rw [instantValue?, Option.bind_eq_some_iff]
  exact exists_congr fun s => and_congr_left fun _ => textValue?_eq_some_iff

/-- An instant is read back. -/
theorem instantValue?_instant (t : Instant) : instantValue? (.instant t) = some t :=
  instantValue?_eq_some_iff.2 ⟨t.zuluText, rfl, Instant.read?_zuluText t⟩

/-- A count is read back. -/
theorem uint64Value?_toNat (n : UInt64) : uint64Value? (.int n.toNat) = some n := by
  rw [int, uint64Value?, if_pos (Int.natCast_nonneg _), Int.toNat_natCast, UInt64.ofNat_toNat]

/-- Values that are read back one by one are read back as a list. -/
theorem listValue?_map {α : Type} {read : Json → Option α} {write : α → Json} (h : ∀ x, read (write x) = some x)
    (xs : List α) : listValue? read (.array (xs.map write)) = some xs := by
  rw [listValue?]
  induction xs with
  | nil => rfl
  | cons x xs ih =>
      rw [List.map_cons, List.mapM_cons, h, ih]
      rfl

/-- Texts are the one thing that is read as a list of them. -/
theorem listValue?_texts_iff {json : Json} {values : List String} :
    listValue? textValue? json = some values ↔ json = .texts values := by
  constructor
  · intro h
    match json with
    | .array items =>
        rw [listValue?] at h
        suffices hitems : items = values.map text by rw [hitems, texts]
        induction items generalizing values with
        | nil =>
            obtain rfl : [] = values := Option.some.inj h
            rfl
        | cons item items ih =>
            rw [List.mapM_cons] at h
            obtain ⟨s, hs, h⟩ := Option.bind_eq_some_iff.1 h
            obtain ⟨rest, hrest, h⟩ := Option.bind_eq_some_iff.1 h
            obtain rfl : s :: rest = values := Option.some.inj h
            rw [List.map_cons, textValue?_eq_some_iff.1 hs, ih hrest]
  · rintro rfl
    exact listValue?_map textValue?_text values

/-! ### Fields of records -/

/-- The fields of a record as they are read from an object: each has what stands under its name, if this has the form
of the field. -/
structure Fields.ReadFrom (known : Fields) (names : List String) (fields : List (String × Json)) : Prop where
  int64_iff : ∀ {name n}, name ∈ names → (known.required name int64Value? = some n ↔ (name, .int64 n) ∈ fields)
  text_iff : ∀ {name s}, name ∈ names → (known.required name textValue? = some s ↔ (name, .text s) ∈ fields)
  instant_iff : ∀ {name t}, name ∈ names → (known.required name instantValue? = some t
    ↔ ∃ date, (name, .text date) ∈ fields ∧ Instant.read? date.toList = some t)
  texts_iff : ∀ {name values}, name ∈ names →
    (known.required name (listValue? textValue?) = some values ↔ (name, .texts values) ∈ fields)

/-- **Objects.** Without repeated names all fields of a record are read from the object. -/
theorem exists_readFrom {fields : List (String × Json)} (h : (fields.map Prod.fst).Nodup) (names : List String) :
    ∃ known : Fields, knownFields? names (fields.map fun (name, value) => (some name, value)) = some known
      ∧ known.ReadFrom names fields := by
  obtain ⟨known, hknown, hrequired⟩ := exists_knownFields? h names
  refine ⟨known, hknown, ?_⟩
  constructor
  case int64_iff =>
    intro name n hname
    simp only [hrequired name _ n hname, int64Value?_eq_some_iff, exists_eq_right]
  case text_iff =>
    intro name s hname
    simp only [hrequired name _ s hname, textValue?_eq_some_iff, exists_eq_right]
  case instant_iff =>
    intro name t hname
    rw [hrequired name _ t hname]
    constructor
    · rintro ⟨value, hmem, hvalue⟩
      obtain ⟨date, rfl, hdate⟩ := instantValue?_eq_some_iff.1 hvalue
      exact ⟨date, hmem, hdate⟩
    · rintro ⟨date, hmem, hdate⟩
      exact ⟨.text date, hmem, instantValue?_eq_some_iff.2 ⟨date, rfl, hdate⟩⟩
  case texts_iff =>
    intro name values hname
    simp only [hrequired name _ values hname, listValue?_texts_iff, exists_eq_right]

end FeatureQuery.Json
