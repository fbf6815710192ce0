import FeatureQuery.Text.Blank
import FeatureQuery.Text.Lowercase
import FeatureQuery.Time.Instant

/-!
# Callers

The person on whose behalf a query runs, and all that the answer to a query may depend on besides the
query and the stored records: the time, the current stable milestone, and that person.

## Main results

* `Context.isAnonymous_iff`: a context is anonymous exactly when nobody is signed in.
-/

namespace FeatureQuery

open FeatureQuery.Time (Instant)

/-- A person, known by an email address in lowercase. -/
structure Identity where
  email : String
  deriving DecidableEq

/-- The person of an email address: blanks around it and case do not count. -/
def Identity.ofEmail (email : String) : Identity :=
  ⟨String.ofList (Text.lowercase (Text.trim email.toList))⟩

/-- How an identity is shown in diagnostics. -/
def Identity.diagnostic (identity : Identity) : String :=
  "Identity(" ++ identity.email ++ ")"

/-- What a query is evaluated against. -/
structure Context where
  /-- The time that relative dates start from. -/
  now : Instant
  /-- The milestone that is current in the stable channel. -/
  stableMilestone : Int64
  /-- The person who is signed in, if any. -/
  caller : Option Identity
  deriving DecidableEq

namespace Context

/-- Nobody is signed in. -/
def isAnonymous (context : Context) : Bool :=
  context.caller.isNone

/-- A request is anonymous exactly if it has no caller. -/
theorem isAnonymous_iff {context : Context} : context.isAnonymous = true ↔ context.caller = none := by
  simp [isAnonymous]

end Context

end FeatureQuery
