/-!
# Errors

What can go wrong in a store, in a cache, and in a request, with the wording of each. An error of the store
keeps its wording when it ends a request.
-/

namespace FeatureQuery

/-- Why a store did not answer. -/
inductive StoreError where
  /-- The store, or the part of it that was asked, cannot be reached. -/
  | unavailable (backend detail : String)
  /-- No answer came in time. -/
  | timeout (millis : Nat)
  /-- A property was asked of a collection that does not carry it. -/
  | mismatch (property collection : String)
  | internal (backend detail : String)
  deriving DecidableEq

/-- The wording of a store's error. -/
def StoreError.message : StoreError → String
  | unavailable backend detail => "store unavailable: " ++ backend ++ ": " ++ detail
  | timeout millis => "store lookup timed out after " ++ toString millis ++ "ms"
  | mismatch property collection =>
    "property " ++ property ++ " does not belong to collection " ++ collection
  | internal backend detail => "internal error in " ++ backend ++ ": " ++ detail

/-- Why a request failed. -/
inductive SearchError where
  /-- A bound of the window is no natural number. -/
  | pagination (parameter value detail : String)
  /-- The records of the answer could not be loaded. -/
  | store (cause : StoreError)
  deriving DecidableEq

/-- The wording of a request's error. -/
def SearchError.message : SearchError → String
  | pagination parameter value detail =>
    "invalid pagination parameter " ++ parameter ++ "=" ++ value ++ ": " ++ detail
  | store cause => cause.message

/-- Why a cache did not do its work. -/
inductive CacheError where
  /-- The cache cannot be reached. -/
  | unavailable (detail : String)
  /-- A page could not be written or read. -/
  | serialization (detail : String)
  deriving DecidableEq

/-- The wording of a cache's error. -/
def CacheError.message : CacheError → String
  | unavailable detail => "cache unavailable: " ++ detail
  | serialization detail => "cache serialization error: " ++ detail

end FeatureQuery
