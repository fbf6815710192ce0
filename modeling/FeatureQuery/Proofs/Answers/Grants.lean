import FeatureQuery.Proofs.Page
import Mathlib.Data.List.Induction

/-!
# Grants

The permissions of a person come from grants to addresses that are addresses of that person, however they are
spelled. They add up: a person approves the gate types of all these grants. With this, what the tests about a
caller select can be said of the grants themselves.

## Main results

* `Permissions.mem_gateTypes_grant`, `Permissions.mem_gateTypes_ofGrants`: what one more grant adds, and what a
  person approves after all of them.
* `CallerField.resolve_selects`: what tests about the caller select.
-/

namespace FeatureQuery

/-- A grant to the person of an address. -/
inductive Grant where
  /-- Of gates, the types that the person may approve. -/
  | gates (email : String) (types : List Int64)
  /-- The person sees unlisted features. -/
  | unlisted (email : String)
  deriving DecidableEq

/-- The grant lets a person approve a type of gates. -/
def Grant.Approves (person : Identity) (type : Int64) : Grant → Prop
  | gates email types => Identity.ofEmail email = person ∧ type ∈ types
  | unlisted _ => False

namespace Permissions

/-- The permissions after one more grant. -/
def grant (permissions : Permissions) : Grant → Permissions
  | .gates email types => permissions.grantGates (.ofEmail email) types
  | .unlisted email => permissions.grantUnlisted (.ofEmail email)

/-- The permissions after some grants. -/
def ofGrants (grants : List Grant) : Permissions :=
  grants.foldl grant none

/-- A grant adds what it lets a person approve, and takes nothing away. -/
theorem mem_gateTypes_grant {permissions : Permissions} {g : Grant} {person : Identity} {type : Int64} :
    type ∈ (permissions.grant g).gateTypes person ↔ type ∈ permissions.gateTypes person ∨ g.Approves person type := by
  cases g with
  | gates email types => exact mem_gateTypes_grantGates
  | unlisted email => exact (or_iff_left not_false).symm

/-- **Grants** add up: a person approves what some grant to the person says. -/
theorem mem_gateTypes_ofGrants {grants : List Grant} {person : Identity} {type : Int64} :
    type ∈ (ofGrants grants).gateTypes person ↔ ∃ g ∈ grants, g.Approves person type := by
  -- The induction is on the grants from the last one on, which is the one that `grant` adds.
  induction grants using List.reverseRecOn with
  | nil => exact iff_of_false (IdSet.not_mem_empty type) (by simp)
  | append_singleton grants g ih =>
      rw [ofGrants, List.foldl_concat, mem_gateTypes_grant, ← ofGrants, ih]
      simp only [List.mem_append, List.mem_singleton, or_and_right, exists_or, exists_eq_left]

end Permissions

/-- **Tests about the caller.** For an anonymous caller they match nothing, without a lookup. For any other one, the
answer has the ids that have to do with the person, and is not complemented. -/
theorem CallerField.resolve_selects {store : Store} (online : store.Online) (grants : List Grant) (days : Int64)
    (context : Context) (field : CallerField) :
    (context.caller = none →
        field.resolve store (.ofGrants grants) days context = pure (.ready .empty))
      ∧ ∀ person, context.caller = some person →
          ∃ ids, (field.resolve store (.ofGrants grants) days context).value.answer = ⟨ids, false⟩
            ∧ ∀ id, id ∈ ids
              ↔ field.Selects store (fun type => ∃ g ∈ grants, g.Approves person type) days context.now person id := by
  refine ⟨resolve_anonymous store _ days field, fun person hperson => ?_⟩
  have happroves : (· ∈ (Permissions.ofGrants grants).gateTypes person)
      = fun type => ∃ g ∈ grants, g.Approves person type :=
    funext fun type => propext Permissions.mem_gateTypes_ofGrants
  rw [resolve, hperson, ← happroves]
  exact exists_answer_resolveFor online _ days context.now person field

/-- A review of a feature that waits for a reviewer. -/
def Gate.requested (featureId type : Int64) : Gate where
  id := 1
  featureId := featureId
  stageId := 1
  gateType := type
  state := 2
  requestedOn := none
  resolvedOn := none

/-- The context of a caller. -/
def Context.ofCaller (email : String) : Context :=
  { Context.anonymousAt .epoch with caller := some (.ofEmail email) }

/-- Of two grants to the caller, whose address is spelled in another way each time, the second one covers a review of
which no feature is stored. -/
theorem CallerField.resolve_selects_pending :
    (Store.ofRecords [] [] [.requested 7 34] []).Online
      ∧ (Context.ofCaller "Ann@example.com").caller = some (.ofEmail "ann@example.com")
      ∧ ∃ ids, (pendingApprovalBy.resolve (.ofRecords [] [] [.requested 7 34] [])
            (.ofGrants [.gates " ann@example.com" [4], .gates "ANN@example.com" [34]]) 7
            (.ofCaller "Ann@example.com")).value.answer = ⟨ids, false⟩
          ∧ 7 ∈ ids := by
  have online := Store.online_ofRecords [] [] [.requested 7 34] []
  have hcaller : (Context.ofCaller "Ann@example.com").caller = some (.ofEmail "ann@example.com") := by
    decide +kernel
  obtain ⟨-, hselects⟩ := resolve_selects online [.gates " ann@example.com" [4], .gates "ANN@example.com" [34]] 7
    (.ofCaller "Ann@example.com") pendingApprovalBy
  obtain ⟨ids, hanswer, hids⟩ := hselects (.ofEmail "ann@example.com") hcaller
  have hgrant : Grant.Approves (.ofEmail "ann@example.com") 34 (.gates "ANN@example.com" [34]) :=
    ⟨by decide +kernel, by decide⟩
  exact ⟨online, hcaller, ids, hanswer, (hids 7).2
    ⟨.requested 7 34, by decide +kernel, rfl, ⟨_, by decide, hgrant⟩, by decide⟩⟩

end FeatureQuery
