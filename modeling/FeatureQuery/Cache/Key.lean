import FeatureQuery.CallerField
import FeatureQuery.Json.Text
import FeatureQuery.Literal.Reader
import FeatureQuery.Query
import FeatureQuery.Request

/-!
# Cache keys

A page may be shared if it is the same for everybody at all times: its request shows unlisted features, and
no term of its query is about the caller or has a relative literal in it. The key of a request holds all
that its page depends on besides the records.

## Main results

* `isCacheable_iff`: when pages may be shared.
-/

namespace FeatureQuery

namespace Term

/-- Some item or bound of a value depends on the context. -/
def hasRelative (raw : String) : Bool :=
  ((Literal.splitList raw.toList).flatMap Text.splitDots).any Literal.isRelative

/-- What the term matches depends on who asks, or when. -/
def isContextual (term : Term) : Bool :=
  (CallerField.ofTest? term.test).isSome
    || match term.test with
      | .field _ _ raw => hasRelative raw
      | .text _ => false

end Term

/-- Pages of a query may be shared, if unlisted features are shown to everybody. -/
def isCacheable (query : String) (showUnlisted : Bool) : Bool :=
  showUnlisted && !(Query.read query).terms.any (·.isContextual)

/-- Pages may be shared if unlisted features are shown and no term depends on who asks, or when. -/
theorem isCacheable_iff {query : String} {showUnlisted : Bool} :
    isCacheable query showUnlisted = true
      ↔ showUnlisted = true ∧ ∀ term ∈ (Query.read query).terms, term.isContextual = false := by
  rw [isCacheable, Bool.and_eq_true, Bool.not_eq_true', List.any_eq_false]
  simp only [Bool.not_eq_true]

/-- The words of a query with one blank between each two of them. -/
def normalizeQuery (query : String) : String :=
  String.ofList (Text.joinWith [' '] (Text.words query.toList))

/-- The parameters of a request in JSON, with the names of the fields in order. -/
def keyFields (query : String) (spec : SortSpec) (visibility : Visibility) (window : Window)
    (namesOnly : Bool) : Json :=
  .obj
    [("names_only", .bool namesOnly), ("num", .orNull (window.num.map fun n => .int n)),
     ("q", .text (normalizeQuery query)), ("show_deleted", .bool visibility.showDeleted),
     ("show_enterprise", .bool visibility.showEnterprise),
     ("show_unlisted", .bool visibility.showUnlisted), ("sort", .text spec.display),
     ("start", .int window.start)]

/-- The cache key of a request. -/
def cacheKey (keyPrefix query : String) (spec : SortSpec) (visibility : Visibility) (window : Window)
    (namesOnly : Bool) : String :=
  keyPrefix ++ ":" ++ (keyFields query spec visibility window namesOnly).compact

end FeatureQuery
