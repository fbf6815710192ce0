import FeatureQuery.Lookup
import FeatureQuery.Permissions
import FeatureQuery.Term

/-!
# Fields about the caller

Tests such as `owner:me` and `is:recently-reviewed` ask for features that have to do with the person who
asks. For an anonymous caller they match nothing.

## Main results

* `resolve_anonymous`: without a caller nothing matches, and nothing is noted.
* `resolveFor_recentlyReviewed`: the window of recent reviews starts so many days ago, if there is such an instant.
-/

namespace FeatureQuery

/-- A field about the caller. -/
inductive CallerField where
  /-- Features that the caller owns, edits, watches or created. -/
  | owner | editor | cc | creator
  /-- Features that the caller has starred. -/
  | starredBy
  /-- Features with a review that waits for the caller's approval. -/
  | pendingApprovalBy
  /-- Features with a review that was decided a short time ago. -/
  | recentlyReviewed
  deriving DecidableEq

namespace CallerField

/-- The label of the field in diagnostics. -/
def label : CallerField → String
  | owner => "Owner"
  | editor => "Editor"
  | cc => "Cc"
  | creator => "Creator"
  | starredBy => "StarredBy"
  | pendingApprovalBy => "PendingApprovalBy"
  | recentlyReviewed => "RecentlyReviewed"

/-- The text without the quotes at either end. -/
def trimQuotes (cs : List Char) : List Char :=
  ((cs.dropWhile (· == '"')).reverse.dropWhile (· == '"')).reverse

/-- A text in lowercase, as far as its ASCII letters go. -/
def folded (cs : List Char) : String :=
  String.ofList (Text.lowerAscii cs)

/-- The field about the caller that a name and a value make up. Case and quotes do not count. -/
def ofParts? (name raw : String) : Option CallerField :=
  match folded name.toList, folded (trimQuotes raw.toList) with
  | "owner", "me" => some owner
  | "editor", "me" => some editor
  | "cc", "me" => some cc
  | "creator", "me" => some creator
  | "starred-by", "me" => some starredBy
  | "pending-approval-by", "me" => some pendingApprovalBy
  | "is", "recently-reviewed" => some recentlyReviewed
  | _, _ => none

/-- The field about the caller that a test asks for. Only equality does. -/
def ofTest? : Test → Option CallerField
  | .field name .eq raw => ofParts? name raw
  | _ => none

/-! ### Queries -/

/-- The features with a person's address in a property. -/
def byAddress (property : Property) (person : Identity) : StoreQuery :=
  (StoreQuery.all .feature).filter (.compare property .eq (.text person.email))

/-- The stars that a person has set. -/
def setStars (person : Identity) : StoreQuery :=
  ((StoreQuery.all .star).filter (.compare .starEmail .eq (.text person.email))).filter
    (.compare .starred .eq (.bool true))

/-- The gates of some types that wait for a reviewer. -/
def pendingGates (types : IdSet) : StoreQuery :=
  ((StoreQuery.all .gate).filter (.oneOf .gateType (types.toList.map .int))).filter
    (.oneOf .gateState (Gate.pendingStates.map .int))

/-- The gates that were decided in a window, bounds included. -/
def decidedGates (since till : Time.Instant) : StoreQuery :=
  (((StoreQuery.all .gate).filter (.oneOf .gateState (Gate.finalStates.map .int))).filter
    (.compare .resolvedOn .ge (.instant since))).filter (.compare .resolvedOn .le (.instant till))

/-- A lookup of one query. -/
def ask (store : Store) (field : CallerField) (query : StoreQuery) : Lookup :=
  .ofStore store ⟨[query], false⟩ field.label

/-- Looks a field up for a person. Someone who may approve no gates has no approvals to give. -/
def resolveFor (store : Store) (permissions : Permissions) (days : Int64) (now : Time.Instant)
    (person : Identity) (field : CallerField) : Noted Lookup :=
  match field with
  | owner => pure (field.ask store (byAddress .ownerEmails person))
  | editor => pure (field.ask store (byAddress .editorEmails person))
  | cc => pure (field.ask store (byAddress .ccEmails person))
  | creator => pure (field.ask store (byAddress .creatorEmail person))
  | starredBy => pure (field.ask store (setStars person))
  | pendingApprovalBy =>
    let types := permissions.gateTypes person
    if types.isEmpty then pure (.pending (pure (.answered .empty)))
    else pure (field.ask store (pendingGates types))
  | recentlyReviewed =>
    match now.shift? false days with
    | some since => pure (field.ask store (decidedGates since now))
    | none => .warn (.windowOutOfRange days) (.ready .empty)

/-- The window of recent reviews starts so many days ago, and where there is no such instant it is out of range. -/
theorem resolveFor_recentlyReviewed (store : Store) (permissions : Permissions) (days : Int64)
    (now : Time.Instant) (person : Identity) :
    resolveFor store permissions days now person .recentlyReviewed
      = match now.addDays? (-days.toInt) with
        | some since => pure (ask store .recentlyReviewed (decidedGates since now))
        | none => .warn (.windowOutOfRange days) (.ready .empty) := by
  rw [resolveFor, Time.Instant.shift?_eq]
  rfl

/-- Looks a field up for the caller. The window of recent reviews is so many days long. -/
def resolve (store : Store) (permissions : Permissions) (days : Int64) (context : Context)
    (field : CallerField) : Noted Lookup :=
  match context.caller with
  | none => pure (.ready .empty)
  | some person => field.resolveFor store permissions days context.now person

/-- Without a caller nothing matches, and nothing is noted. -/
theorem resolve_anonymous {context : Context} (store : Store) (permissions : Permissions) (days : Int64)
    (field : CallerField) (h : context.caller = none) :
    field.resolve store permissions days context = pure (.ready .empty) := by
  simp [resolve, h]

end CallerField

end FeatureQuery
