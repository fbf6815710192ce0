import FeatureQuery.Error
import FeatureQuery.Number.Integer
import FeatureQuery.Text.Quoted

/-!
# Warnings

Failures that a request survives are noted as warnings: part of the answer is then computed as if nothing
had matched. A computation that notes warnings returns its value together with them, in order.

## Main results

* `Noted.value_bind`, `Noted.warnings_bind`: one computation after another.
* `Noted.eq_pure`: a computation that notes nothing is its value.
-/

namespace FeatureQuery

/-- Something that was survived. -/
inductive Warning where
  /-- No field has the name that was typed. -/
  | unknownField (typed : String)
  /-- The field cannot be filtered on. -/
  | unindexedField (field : String)
  /-- A term's lookup failed. -/
  | lookupFailed (backend term : String) (cause : StoreError)
  /-- A lookup of a text failed. -/
  | textLookupFailed (backend text : String) (cause : StoreError)
  /-- The set of all features could not be loaded. -/
  | universeFailed (backend : String) (cause : StoreError)
  /-- The order could not be looked up. -/
  | sortFailed (backend sort : String) (cause : StoreError)
  /-- Nothing can be sorted by the key. -/
  | unknownSortKey (sort : String)
  /-- The window of recent reviews starts outside the range of instants. -/
  | windowOutOfRange (days : Int64)
  | cacheReadFailed (cache : String) (cause : CacheError)
  | cacheWriteFailed (cache : String) (cause : CacheError)
  /-- A term's lookup did not finish. -/
  | lookupCrashed
  deriving DecidableEq

namespace Warning

/-- The wording of a warning. -/
def message : Warning → String
  | unknownField _ => "Unknown query field"
  | unindexedField _ => "Query field is not indexed"
  | lookupFailed .. => "Term lookup failed, treating it as matching nothing"
  | textLookupFailed .. => "Text lookup failed, treating it as matching nothing"
  | universeFailed .. => "Failed to load all features for negation"
  | sortFailed .. => "Sort lookup failed, ordering by id"
  | unknownSortKey _ => "Unknown sort key, ordering by id"
  | windowOutOfRange _ => "Recently reviewed window is out of range"
  | cacheReadFailed .. => "Cache read failed, computing results"
  | cacheWriteFailed .. => "Cache write failed"
  | lookupCrashed => "Term lookup task failed, treating it as matching nothing"

/-- The particulars of a warning, by name. -/
def details : Warning → List (String × String)
  | unknownField field | unindexedField field => [("field", field)]
  | lookupFailed backend term cause =>
    [("term", term), ("backend", Text.quote backend), ("error", cause.message)]
  | textLookupFailed backend text cause =>
    [("text", text), ("backend", Text.quote backend), ("error", cause.message)]
  | universeFailed backend cause => [("backend", Text.quote backend), ("error", cause.message)]
  | sortFailed backend sort cause =>
    [("sort", sort), ("backend", Text.quote backend), ("error", cause.message)]
  | unknownSortKey sort => [("sort", sort)]
  | windowOutOfRange days => [("days", Number.showInt64 days)]
  | cacheReadFailed cache cause | cacheWriteFailed cache cause =>
    [("cache", Text.quote cache), ("error", cause.message)]
  | lookupCrashed => []

end Warning

/-- A value with the warnings that were noted while it was computed. -/
structure Noted (α : Type) where
  value : α
  warnings : List Warning

namespace Noted

instance : Monad Noted where
  pure x := ⟨x, []⟩
  bind x f := ⟨(f x.value).value, x.warnings ++ (f x.value).warnings⟩

/-- A value alone is this value. -/
@[simp] theorem value_pure {α : Type} (x : α) : (pure x : Noted α).value = x := rfl

/-- Nothing is noted of a value alone. -/
@[simp] theorem warnings_pure {α : Type} (x : α) : (pure x : Noted α).warnings = [] := rfl

/-- The value of two steps is that of the second. -/
@[simp] theorem value_bind {α β : Type} (x : Noted α) (f : α → Noted β) :
    (x >>= f).value = (f x.value).value := rfl

/-- The warnings of two steps come in the order of the steps. -/
@[simp] theorem warnings_bind {α β : Type} (x : Noted α) (f : α → Noted β) :
    (x >>= f).warnings = x.warnings ++ (f x.value).warnings := rfl

/-- Changing the value changes no warnings. -/
@[simp] theorem warnings_map {α β : Type} (f : α → β) (x : Noted α) : (f <$> x).warnings = x.warnings :=
  List.append_nil _

/-- A value that comes with a warning. -/
def warn {α : Type} (warning : Warning) (value : α) : Noted α :=
  ⟨value, [warning]⟩

/-- What comes without warnings is a value alone. -/
theorem eq_pure {α : Type} {x : Noted α} (h : x.warnings = []) : x = pure x.value := by
  obtain ⟨value, warnings⟩ := x
  subst h
  rfl

/-- Leaving the value as it is changes nothing. -/
theorem map_id {α : Type} (x : Noted α) : id <$> x = x := by
  obtain ⟨value, warnings⟩ := x
  exact congrArg (Noted.mk value) (List.append_nil _)

instance : LawfulMonad Noted :=
  LawfulMonad.mk' Noted map_id (fun _ _ => rfl)
    (fun _ _ _ => congrArg (Noted.mk _) (List.append_assoc _ _ _))

end Noted

end FeatureQuery
