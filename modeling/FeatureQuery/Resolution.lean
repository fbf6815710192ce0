import FeatureQuery.CallerField
import FeatureQuery.Literal.Reader
import FeatureQuery.Query

/-!
# Resolution

How the store answers each kind of test. A test of a field that does not exist or cannot be filtered on
matches nothing and is noted at once; all other tests become lookups.

## Main results

* `Store.resolveField_unknown`: an unknown field matches nothing.
* `Setting.resolveTerm_caller`: a test about the caller is never taken for a test of a field.
-/

namespace FeatureQuery

/-- What the answer to a term depends on. -/
structure Setting where
  store : Store
  permissions : Permissions
  /-- How many days a review counts as recent. -/
  recentDays : Int64
  context : Context

namespace Store

/-- Looks a text up in the index. -/
def resolveText (store : Store) (text : String) : Lookup :=
  .pending <|
    match store.searchText text with
    | .ok ids => pure (.answered ⟨.ofList ids, false⟩)
    | .error cause => .warn (.textLookupFailed backendName text cause) (.answered .empty)

/-- The literals of a value for a field. -/
def literalsFor (context : Context) (field : Field) (raw : String) : List Literal :=
  (Literal.ofRaw context raw.toList).map field.binding.narrow

/-- Looks a test of a known field up. -/
def resolveKnown (store : Store) (context : Context) (field : Field) (op : Operator) (raw : String)
    (negated : Bool) : Noted Lookup :=
  if field.binding.indexed then
    let plan := field.binding.plan op (literalsFor context field raw) negated
    pure (.ofStore store plan (field.spelling ++ op.symbol ++ raw))
  else
    .warn (.unindexedField field.spelling) (.ready .empty)

/-- Looks a test of a field up. With `negated` the answer may already be that to the negated test. -/
def resolveField (store : Store) (context : Context) (name : String) (op : Operator) (raw : String)
    (negated : Bool) : Noted Lookup :=
  match Field.ofName? name with
  | some field => store.resolveKnown context field op raw negated
  | none => .warn (.unknownField name) (.ready .empty)

/-- A test of an unknown field matches nothing, and this is noted. -/
theorem resolveField_unknown {store : Store} {context : Context} {name : String} {op : Operator}
    {raw : String} {negated : Bool} (h : Field.ofName? name = none) :
    store.resolveField context name op raw negated = .warn (.unknownField name) (.ready .empty) := by
  simp [resolveField, h]

end Store

namespace Setting

/-- Looks a term up. -/
def resolveTerm (setting : Setting) (term : Term) : Noted Lookup :=
  match CallerField.ofTest? term.test with
  | some field =>
    field.resolve setting.store setting.permissions setting.recentDays setting.context
  | none =>
    match term.test with
    | .field name op raw => setting.store.resolveField setting.context name op raw term.negated
    | .text content => pure (setting.store.resolveText content)

/-- A test about the caller is looked up as one, whatever fields there are. -/
theorem resolveTerm_caller {setting : Setting} {term : Term} {field : CallerField}
    (h : CallerField.ofTest? term.test = some field) :
    setting.resolveTerm term
      = field.resolve setting.store setting.permissions setting.recentDays setting.context := by
  simp [resolveTerm, h]

/-- The answers to the terms of a query: all lookups are started in order, then joined. -/
def answers (setting : Setting) (query : Query) : Noted (List Resolved) := do
  Lookup.join (← query.terms.mapM setting.resolveTerm)

end Setting

end FeatureQuery
