import FeatureQuery.SortSpec
import FeatureQuery.Visibility

/-!
# Requests

A search request: the query, what to sort by, what to show, and in which window.

## Main results

* `read_of_pagination`: a request whose window cannot be read is refused for that reason.
-/

namespace FeatureQuery

/-- A search request. -/
structure Request where
  query : String
  /-- What to sort by; without it, the configured order. -/
  sort : Option SortSpec
  visibility : Visibility
  window : Window
  /-- Show ids and names only. -/
  namesOnly : Bool
  deriving DecidableEq

namespace Request

/-- The sort specification of a parameter. A blank one counts as absent. -/
def readSort? (text : String) : Option SortSpec :=
  if (Text.trim text.toList).isEmpty then none else some (.ofText text)

/-- The request that some parameters ask for. -/
def read (query : String) (sort start num : Option String) : Except SearchError Request := do
  let window ← Window.read start num
  return ⟨query, sort.bind readSort?, .plain, window, false⟩

/-- A request with a bad window is refused with the error of the window. -/
theorem read_of_pagination {query : String} {sort start num : Option String} {e : SearchError}
    (h : Window.read start num = .error e) : read query sort start num = .error e := by
  simp [read, h, bind, Except.bind]

end Request

end FeatureQuery
