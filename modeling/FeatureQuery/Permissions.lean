import FeatureQuery.Caller
import FeatureQuery.IdSet

/-!
# Permissions

What each person may do: the types of gates they may approve, and whether they see unlisted features
without asking for them. Grants add up.

## Main results

* `mem_gateTypes_grantGates`: a grant adds its gate types to those of one person.
* `seesUnlisted_grantUnlisted`: a grant lets one more person see unlisted features.
-/

namespace FeatureQuery

/-- The grants made so far. -/
structure Permissions where
  gates : List (Identity × List Int64)
  unlisted : List Identity
  deriving DecidableEq

namespace Permissions

/-- No grants. -/
def none : Permissions := ⟨[], []⟩

/-- One more grant of gate types. -/
def grantGates (permissions : Permissions) (person : Identity) (types : List Int64) : Permissions :=
  { permissions with gates := permissions.gates ++ [(person, types)] }

/-- One more person who sees unlisted features. -/
def grantUnlisted (permissions : Permissions) (person : Identity) : Permissions :=
  { permissions with unlisted := permissions.unlisted ++ [person] }

/-- The types of gates that a person may approve. -/
def gateTypes (permissions : Permissions) (person : Identity) : IdSet :=
  .ofList ((permissions.gates.filter (·.1 = person)).flatMap (·.2))

/-- A person sees unlisted features without asking for them. -/
def seesUnlisted (permissions : Permissions) (person : Identity) : Bool :=
  permissions.unlisted.contains person

/-- A grant of gate types adds to what its person may approve, and to nothing else. -/
theorem mem_gateTypes_grantGates {permissions : Permissions} {person other : Identity}
    {types : List Int64} {type : Int64} :
    type ∈ (permissions.grantGates person types).gateTypes other
      ↔ type ∈ permissions.gateTypes other ∨ (person = other ∧ type ∈ types) := by
  by_cases h : person = other <;> simp [gateTypes, grantGates, List.filter_append, h]

/-- A grant to see unlisted features changes this for its person only. -/
theorem seesUnlisted_grantUnlisted {permissions : Permissions} {person other : Identity} :
    (permissions.grantUnlisted person).seesUnlisted other = true
      ↔ permissions.seesUnlisted other = true ∨ other = person := by
  simp [seesUnlisted, grantUnlisted]

end Permissions

end FeatureQuery
