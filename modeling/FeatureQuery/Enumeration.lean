import FeatureQuery.Number.Integer
import FeatureQuery.Text.Alphanumeric
import FeatureQuery.Text.Blank
import FeatureQuery.Text.Lowercase

/-!
# Enumerations

Features, stages and gates hold some of their properties as integer codes. A query names a value of an
enumeration by its code or by its name, where only letters and digits count and case does not.

## Main results

* `ofName?_name`: an enumeration is read back from its name.
* `knownCode?_eq_some_iff`: a code is known exactly when the table has it.
* `lookup?_of_readInt64?`: a text that reads as an integer names a code and nothing else.
-/

namespace FeatureQuery

open FeatureQuery.Number (readInt64?)
open FeatureQuery.Text (isAlphanumeric lowerChar trim)

/-- The enumerations that properties are coded with. -/
inductive Enumeration where
  | category | featureType | implStatus | intentStage | standardMaturity | stageType | gateType
  | gateState
  deriving DecidableEq

namespace Enumeration

/-- The name of an enumeration. -/
def name : Enumeration → String
  | category => "category"
  | featureType => "feature_type"
  | implStatus => "impl_status"
  | intentStage => "intent_stage"
  | standardMaturity => "standard_maturity"
  | stageType => "stage_type"
  | gateType => "gate_type"
  | gateState => "gate_state"

/-- All enumerations. -/
def all : List Enumeration :=
  [category, featureType, implStatus, intentStage, standardMaturity, stageType, gateType, gateState]

/-- The enumeration of a name. -/
def ofName? (name : String) : Option Enumeration :=
  all.find? (·.name == name)

/-- An enumeration is found by its name. -/
theorem ofName?_name (e : Enumeration) : ofName? e.name = some e := by
  cases e <;> rfl

/-! ### Tables -/

/-- The areas of the platform that features belong to. -/
def categories : List (Int64 × String) :=
  [(0, "Web Components"), (1, "Miscellaneous"), (2, "Security"), (3, "Multimedia"), (4, "DOM"),
   (5, "File APIs"), (6, "Offline / Storage"), (7, "Device"), (8, "Realtime / Communication"),
   (9, "JavaScript"), (10, "Network / Connectivity"), (11, "User input"), (12, "Performance"),
   (13, "Graphics"), (14, "CSS"), (15, "Housekeeping"), (16, "Service Worker"), (17, "WebRTC"),
   (18, "Layered APIs"), (19, "WebAssembly"), (20, "Capabilities (Fugu)")]

/-- The kinds of launch that features go through. -/
def featureTypes : List (Int64 × String) :=
  [(0, "New feature incubation"), (1, "Existing feature implementation"),
   (2, "Web developer facing change to existing code"), (3, "Feature deprecation"),
   (4, "Chrome enterprise feature")]

/-- The states of an implementation. -/
def implStatuses : List (Int64 × String) :=
  [(1, "No active development"), (2, "Proposed"), (3, "In development"),
   (4, "In developer trial (Behind a flag)"), (5, "Enabled by default"), (6, "Deprecated"),
   (7, "Removed"), (8, "Origin trial"), (9, "Browser Intervention"), (10, "On hold"),
   (1000, "No longer pursuing")]

/-- The steps of the process by which a feature is announced. -/
def intentStages : List (Int64 × String) :=
  [(0, "None"), (1, "Start incubating"), (2, "Start prototyping"), (3, "Dev trials"),
   (4, "Evaluate readiness to ship"), (5, "Origin Trial"), (6, "Prepare to ship"), (7, "Shipped"),
   (8, "Extend Origin Trial"), (9, "Ship"), (10, "Rollout")]

/-- The states of a feature's standard. -/
def standardMaturities : List (Int64 × String) :=
  [(0, "Unset"), (1, "Unknown standards status"), (2, "Proposal"), (3, "Incubation"),
   (4, "Working draft or equivalent"), (5, "Specification")]

/-- The stages of a launch; each kind of launch has its own codes. -/
def stageTypes : List (Int64 × String) :=
  [(110, "Incubate"), (120, "Prototype"), (130, "Dev trial"), (140, "Evaluate readiness to ship"),
   (150, "Origin trial"), (151, "Extend origin trial"), (160, "Ship"),
   (220, "Fast-follow prototype"), (230, "Fast-follow dev trial"), (250, "Fast-follow origin trial"),
   (251, "Fast-follow extend origin trial"), (260, "Fast-follow ship"), (330, "Code change dev trial"),
   (360, "Code change ship"), (430, "Deprecation dev trial"), (450, "Deprecation trial"),
   (451, "Extend deprecation trial"), (460, "Deprecation ship"), (1061, "Rollout")]

/-- The reviews that a stage has to pass. -/
def gateTypes : List (Int64 × String) :=
  [(1, "API Owners Prototype"), (2, "API Owners Origin Trial"), (3, "API Owners Extend Origin Trial"),
   (4, "API Owners Ship"), (32, "Privacy Origin Trial"), (34, "Privacy Ship"),
   (42, "Security Origin Trial"), (44, "Security Ship"), (54, "Enterprise Ship"),
   (64, "Debuggability Ship"), (74, "Testing Ship")]

/-- The states of a review. -/
def gateStates : List (Int64 × String) :=
  [(0, "Preparing"), (1, "N/A"), (2, "Review requested"), (3, "Review started"), (4, "Needs work"),
   (5, "Approved"), (6, "Denied"), (7, "No response"), (8, "Internal review"), (9, "N/A requested")]

/-- The values of an enumeration, with their codes, in order. -/
def entries : Enumeration → List (Int64 × String)
  | category => categories
  | featureType => featureTypes
  | implStatus => implStatuses
  | intentStage => intentStages
  | standardMaturity => standardMaturities
  | stageType => stageTypes
  | gateType => gateTypes
  | gateState => gateStates

/-! ### Values -/

/-- The name of the value of a code. -/
def displayName? (e : Enumeration) (code : Int64) : Option String :=
  e.entries.lookup code

/-- What counts of a name: its letters and digits, in lowercase. -/
def normalizeName (name : List Char) : List Char :=
  (name.filter isAlphanumeric).flatMap lowerChar

/-- The code, if the enumeration has it. -/
def knownCode? (e : Enumeration) (code : Int64) : Option Int64 :=
  if e.entries.any (·.1 == code) then some code else none

/-- The code of the first value with a name. A name without letters and digits names nothing. -/
def codeOfName? (e : Enumeration) (name : List Char) : Option Int64 :=
  let wanted := normalizeName name
  if wanted.isEmpty then none
  else (e.entries.find? fun entry => normalizeName entry.2.toList == wanted).map (·.1)

/-- The code that a text of a query names. A text that is an integer, blanks around it aside, can only be
a code. -/
def lookup? (e : Enumeration) (literal : String) : Option Int64 :=
  match readInt64? (trim literal.toList) with
  | some code => e.knownCode? code
  | none => e.codeOfName? literal.toList

/-- A literal that is an integer stands for this code only, if it is known. -/
theorem lookup?_of_readInt64? {e : Enumeration} {literal : String} {code : Int64}
    (h : readInt64? (trim literal.toList) = some code) : e.lookup? literal = e.knownCode? code := by
  simp [lookup?, h]

/-- The known codes are those that have a name. -/
theorem knownCode?_eq_some_iff {e : Enumeration} {code found : Int64} :
    e.knownCode? code = some found ↔ found = code ∧ ∃ name, (code, name) ∈ e.entries := by
  simp only [knownCode?, Option.ite_none_right_eq_some, List.any_eq_true, beq_iff_eq,
    Option.some.injEq, Prod.exists]
  constructor
  · rintro ⟨⟨c, name, mem, rfl⟩, rfl⟩
    exact ⟨rfl, name, mem⟩
  · rintro ⟨rfl, name, mem⟩
    exact ⟨⟨_, name, mem, rfl⟩, rfl⟩

end Enumeration

end FeatureQuery
