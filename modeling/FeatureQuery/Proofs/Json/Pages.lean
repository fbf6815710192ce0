import FeatureQuery.Page
import FeatureQuery.Proofs.Json.Objects
import FeatureQuery.Proofs.Json.RoundTrip

/-!
# Pages in JSON

A page is read back from its text, each entry in the form that it was written in. The form is not written: an object
with an id and a name is an entry with a summary exactly if it holds all fields of one, and an entry without one
otherwise. So the forms are told apart because an entry of an id and a name holds no other field.

## Main results

* `Summary.ofJson?_obj_iff`: a summary is read from an object that holds its fields.
* `Entry.ofJson?_obj_iff`, `Entry.ofJson?_obj_of_not_within`: so an entry has a summary if its object holds one.
* `Page.ofJson?_toJson`: a page is read back from its value.
* `Page.survives_json`: and from its text.
-/

namespace FeatureQuery

open FeatureQuery.Time (Instant)

/-! ### Summaries -/

/-- An object holds all fields of a summary, with values of their forms: integers of 64 bits, texts, dates as texts
and a list of texts. -/
structure Summary.Within (fields : List (String × Json)) (s : Summary) : Prop where
  id : ("id", .int64 s.id) ∈ fields
  name : ("name", .text s.name) ∈ fields
  summary : ("summary", .text s.summary) ∈ fields
  category : ("category", .int64 s.category) ∈ fields
  featureType : ("feature_type", .int64 s.featureType) ∈ fields
  implStatusChrome : ("impl_status_chrome", .int64 s.implStatusChrome) ∈ fields
  created : ∃ date, ("created", .text date) ∈ fields ∧ Instant.read? date.toList = some s.created
  updated : ∃ date, ("updated", .text date) ∈ fields ∧ Instant.read? date.toList = some s.updated
  ownerEmails : ("owner_emails", .texts s.ownerEmails) ∈ fields

/-- What is written for a summary holds its fields. -/
theorem Summary.within_toJson (s : Summary) : ∃ fields, s.toJson = .obj fields
    ∧ fields.map Prod.fst = Summary.fieldNames ∧ s.Within fields := by
  refine ⟨_, rfl, rfl, ?_⟩
  constructor
  case created => exact ⟨s.created.zuluText, by simp [Json.instant], Instant.read?_zuluText s.created⟩
  case updated => exact ⟨s.updated.zuluText, by simp [Json.instant], Instant.read?_zuluText s.updated⟩
  all_goals simp

section Objects

variable {fields : List (String × Json)} (h : (fields.map Prod.fst).Nodup)

include h

/-- **Summaries.** A summary is read from exactly the objects that hold its fields. -/
theorem Summary.ofJson?_obj_iff {s : Summary} : Summary.ofJson? (.obj fields) = some s ↔ s.Within fields := by
  obtain ⟨known, hknown, hread⟩ := Json.exists_readFrom h Summary.fieldNames
  constructor
  · intro heq
    obtain ⟨_, hfields, heq⟩ := Option.bind_eq_some_iff.1 heq
    obtain rfl := Option.some.inj (hknown.symm.trans hfields)
    obtain ⟨id, hid, heq⟩ := Option.bind_eq_some_iff.1 heq
    obtain ⟨name, hname, heq⟩ := Option.bind_eq_some_iff.1 heq
    obtain ⟨summary, hsummary, heq⟩ := Option.bind_eq_some_iff.1 heq
    obtain ⟨category, hcategory, heq⟩ := Option.bind_eq_some_iff.1 heq
    obtain ⟨featureType, hfeatureType, heq⟩ := Option.bind_eq_some_iff.1 heq
    obtain ⟨status, hstatus, heq⟩ := Option.bind_eq_some_iff.1 heq
    obtain ⟨created, hcreated, heq⟩ := Option.bind_eq_some_iff.1 heq
    obtain ⟨updated, hupdated, heq⟩ := Option.bind_eq_some_iff.1 heq
    obtain ⟨emails, hemails, heq⟩ := Option.bind_eq_some_iff.1 heq
    obtain rfl := Option.some.inj heq
    exact {
      id := (hread.int64_iff (by decide)).1 hid
      name := (hread.text_iff (by decide)).1 hname
      summary := (hread.text_iff (by decide)).1 hsummary
      category := (hread.int64_iff (by decide)).1 hcategory
      featureType := (hread.int64_iff (by decide)).1 hfeatureType
      implStatusChrome := (hread.int64_iff (by decide)).1 hstatus
      created := (hread.instant_iff (by decide)).1 hcreated
      updated := (hread.instant_iff (by decide)).1 hupdated
      ownerEmails := (hread.texts_iff (by decide)).1 hemails }
  · intro hwithin
    refine Option.bind_eq_some_iff.2 ⟨known, hknown, ?_⟩
    refine Option.bind_eq_some_iff.2 ⟨_, (hread.int64_iff (by decide)).2 hwithin.id, ?_⟩
    refine Option.bind_eq_some_iff.2 ⟨_, (hread.text_iff (by decide)).2 hwithin.name, ?_⟩
    refine Option.bind_eq_some_iff.2 ⟨_, (hread.text_iff (by decide)).2 hwithin.summary, ?_⟩
    refine Option.bind_eq_some_iff.2 ⟨_, (hread.int64_iff (by decide)).2 hwithin.category, ?_⟩
    refine Option.bind_eq_some_iff.2 ⟨_, (hread.int64_iff (by decide)).2 hwithin.featureType, ?_⟩
    refine Option.bind_eq_some_iff.2 ⟨_, (hread.int64_iff (by decide)).2 hwithin.implStatusChrome, ?_⟩
    refine Option.bind_eq_some_iff.2 ⟨_, (hread.instant_iff (by decide)).2 hwithin.created, ?_⟩
    refine Option.bind_eq_some_iff.2 ⟨_, (hread.instant_iff (by decide)).2 hwithin.updated, ?_⟩
    exact Option.bind_eq_some_iff.2 ⟨_, (hread.texts_iff (by decide)).2 hwithin.ownerEmails, rfl⟩

end Objects

/-! ### Entries -/

namespace Entry

/-- What is read as an id and a name has no summary. -/
theorem nameOnlyOfJson?_ne_full (json : Json) (s : Summary) : nameOnlyOfJson? json ≠ some (.full s) := by
  intro heq
  match json with
  | .object fields =>
      obtain ⟨known, -, heq⟩ := Option.bind_eq_some_iff.1 heq
      obtain ⟨id, -, heq⟩ := Option.bind_eq_some_iff.1 heq
      obtain ⟨name, -, heq⟩ := Option.bind_eq_some_iff.1 heq
      exact Entry.noConfusion (Option.some.inj heq)

/-- An entry has a summary exactly if one can be read. -/
theorem ofJson?_eq_full_iff {json : Json} {s : Summary} :
    ofJson? json = some (.full s) ↔ Summary.ofJson? json = some s := by
  constructor
  · intro heq
    rw [ofJson?] at heq
    split at heq
    · next read hread => rw [hread, Entry.full.inj (Option.some.inj heq)]
    · exact absurd heq (nameOnlyOfJson?_ne_full json s)
  · exact ofJson?_summary

section Objects

variable {fields : List (String × Json)} (h : (fields.map Prod.fst).Nodup)

include h

/-- **Entries.** An entry has a summary exactly if its object holds all fields of one. -/
theorem ofJson?_obj_iff {s : Summary} : ofJson? (.obj fields) = some (.full s) ↔ s.Within fields :=
  ofJson?_eq_full_iff.trans (Summary.ofJson?_obj_iff h)

/-- An object with an id and a name, but without all fields of a summary, is an entry of these two. -/
theorem ofJson?_obj_of_not_within {id : Int64} {name : String} (hid : ("id", .int64 id) ∈ fields)
    (hname : ("name", .text name) ∈ fields) (hwithin : ¬ ∃ s : Summary, s.Within fields) :
    ofJson? (.obj fields) = some (.nameOnly id name) := by
  obtain ⟨known, hknown, hread⟩ := Json.exists_readFrom h ["id", "name"]
  have hsummary : Summary.ofJson? (.obj fields) = none :=
    Option.eq_none_iff_forall_ne_some.2 fun s hs => hwithin ⟨s, (Summary.ofJson?_obj_iff h).1 hs⟩
  rw [ofJson?, hsummary]
  refine Option.bind_eq_some_iff.2 ⟨known, hknown, ?_⟩
  refine Option.bind_eq_some_iff.2 ⟨_, (hread.int64_iff (by decide)).2 hid, ?_⟩
  exact Option.bind_eq_some_iff.2 ⟨_, (hread.text_iff (by decide)).2 hname, rfl⟩

end Objects

/-- An entry is read back in the form that it was written in. -/
theorem ofJson?_toJson (entry : Entry) : ofJson? entry.toJson = some entry := by
  cases entry with
  | full s =>
      obtain ⟨fields, hfields, hnames, hwithin⟩ := s.within_toJson
      have hnodup : (fields.map Prod.fst).Nodup := hnames ▸ by decide
      rw [toJson, hfields]
      exact (ofJson?_obj_iff hnodup).2 hwithin
  | nameOnly id name =>
      have hnames : ["id", "name"].Nodup := by decide
      have hnodup : ([("id", Json.int64 id), ("name", .text name)].map Prod.fst).Nodup := hnames
      refine ofJson?_obj_of_not_within hnodup (by simp) (by simp) ?_
      -- Only two names stand in the object, so there is no place for a category.
      rintro ⟨s, hwithin⟩
      exact absurd hwithin.category (by simp)

end Entry

/-! ### Pages -/

/-- **Pages.** A page is read back from its value. -/
theorem Page.ofJson?_toJson (page : Page) : Page.ofJson? page.toJson = some page := by
  have hentries := Json.listValue?_map Entry.ofJson?_toJson page.entries
  have hfields : page.toJson.fieldsOf? Page.fieldNames
      = some [("features", .array (page.entries.map Entry.toJson)), ("total_count", .int page.total.toNat)] := rfl
  rw [Page.ofJson?, hfields]
  refine Option.bind_eq_some_iff.2 ⟨_, rfl, ?_⟩
  refine Option.bind_eq_some_iff.2 ⟨page.entries, hentries, ?_⟩
  exact Option.bind_eq_some_iff.2 ⟨page.total, Json.uint64Value?_toNat page.total, rfl⟩

/-! ### Texts of pages -/

namespace Json

/-- A 64-bit integer is within the range of JSON numbers. -/
theorem inRange_int64 (n : Int64) : (int64 n).InRange := by
  have hlt : n.toInt < 2 ^ 63 := Int64.toInt_lt n
  have hsize : (UInt64.size : Int) = 2 ^ 64 := rfl
  exact .number ⟨Int64.le_toInt n, by omega⟩

/-- An object is within range if the values of its fields are. -/
theorem inRange_obj {fields : List (String × Json)} (h : ∀ field ∈ fields, field.2.InRange) : (obj fields).InRange := by
  refine .object fun field hfield => ?_
  obtain ⟨⟨name, value⟩, hmem, rfl⟩ := List.mem_map.1 hfield
  exact h _ hmem

/-- A list of texts has no numbers that could be out of range. -/
theorem inRange_texts (values : List String) : (texts values).InRange := by
  refine .array fun item hitem => ?_
  obtain ⟨s, -, rfl⟩ := List.mem_map.1 hitem
  exact .string (some s)

end Json

/-- What is written for a summary is within range. -/
theorem Summary.inRange_toJson (s : Summary) : s.toJson.InRange := by
  refine Json.inRange_obj ?_
  simp only [List.forall_mem_cons]
  refine ⟨Json.inRange_int64 _, .string _, .string _, Json.inRange_int64 _, Json.inRange_int64 _, Json.inRange_int64 _,
    .string _, .string _, Json.inRange_texts _, ?_⟩
  exact fun _ hnil => absurd hnil List.not_mem_nil

/-- What is written for an entry is within range. -/
theorem Entry.inRange_toJson (entry : Entry) : entry.toJson.InRange := by
  cases entry with
  | full s => exact s.inRange_toJson
  | nameOnly id name =>
      refine Json.inRange_obj ?_
      simp only [List.forall_mem_cons]
      exact ⟨Json.inRange_int64 id, .string name, fun _ hnil => absurd hnil List.not_mem_nil⟩

/-- What is written for a page is within the range of JSON numbers. -/
theorem Page.inRange_toJson (page : Page) : page.toJson.InRange := by
  have hentries : (Json.array (page.entries.map Entry.toJson)).InRange := by
    refine .array fun item hitem => ?_
    obtain ⟨entry, -, rfl⟩ := List.mem_map.1 hitem
    exact entry.inRange_toJson
  have htotal : (Json.int page.total.toNat).InRange := by
    have hmin : Int64.minValue.toInt ≤ 0 := by decide
    exact .number ⟨Int.le_trans hmin (Int.natCast_nonneg _), Int.ofNat_lt.2 page.total.toNat_lt⟩
  refine Json.inRange_obj ?_
  simp only [List.forall_mem_cons]
  exact ⟨hentries, htotal, fun _ hnil => absurd hnil List.not_mem_nil⟩

end FeatureQuery
