import FeatureQuery.Log.Level
import FeatureQuery.Text.Alphanumeric
import FeatureQuery.Text.Blank
import FeatureQuery.Text.Bytes

/-!
# Directives

A directive sets the limit for some of the reports. Its full form is `target[scope{field=value}]=limit`, and
each part may be missing; a limit may also stand alone.

Blanks around a directive are passed over while it is read, but its parts are then taken from the whole text
by their positions. So a blank at the end belongs to the last part, and one at the start moves all of them.

## Main results

* `read_of_blank`: blanks alone are no directive.
* `scan_name`: up to an equals sign or a bracket, everything belongs to the name that comes first.
* `read_word`: a limit that stands alone is the limit of all reports.
-/

namespace FeatureQuery.Log

/-- Why a directive is refused. -/
inductive DirectiveError where
  | malformed
  | unknownLimit
  /-- A part would start or end inside a character. -/
  | insideCharacter
  deriving DecidableEq

/-- The wording of a refusal. -/
def DirectiveError.message : DirectiveError → String
  | malformed => "invalid filter directive"
  | unknownLimit =>
    "error parsing level filter: expected one of \"off\", \"error\", \"warn\", \"info\", \"debug\", "
      ++ "\"trace\", or a number 0-5"
  | insideCharacter => "a part ends inside a character"

/-- A field that a directive asks for, perhaps with a value. -/
structure FieldPattern where
  name : String
  value : Option String
  deriving DecidableEq

/-- The limit of the reports that have all that is asked for. -/
structure Directive where
  limit : Limit
  /-- How the target of a report starts. -/
  target : Option String
  /-- The name of the scope that a report belongs to. -/
  scope : Option String
  fields : List FieldPattern
  deriving DecidableEq

namespace Directive

/-- The directive for all reports. -/
def general (limit : Limit) : Directive := ⟨limit, none, none, []⟩

/-! ### Reading -/

/-- Where the reading of a directive stands. Parts that have been started come with their positions. -/
inductive Place where
  | start
  | name
  | scope (since : Nat)
  | field (since : Nat)
  /-- A field has ended. -/
  | fieldEnd
  /-- A scope has ended. -/
  | scopeEnd
  | limit (since : Nat)
  deriving DecidableEq

/-- What has been read of a directive, and where the reading stands. -/
structure Scan where
  place : Place
  directive : Directive

/-- Nothing has been read. -/
def Scan.start : Scan := ⟨.start, general .everything⟩

/-- A name may start with the character. -/
def startsName (c : Char) : Bool :=
  c == '-' || c == ':' || c == '_' || Text.isAlphanumeric c

/-- A part of the text of a directive, by its positions. -/
def part (text : List Char) (start stop : Nat) : Except DirectiveError (List Char) :=
  match Text.between? start stop text with
  | some cs => .ok cs
  | none => .error .insideCharacter

/-- Reads a field. A second equals sign ends its value. -/
def readField (cs : List Char) : Except DirectiveError FieldPattern :=
  let name := String.ofList (cs.takeWhile (· != '='))
  match cs.dropWhile (· != '=') with
  | [] => if cs.isEmpty then .error .malformed else .ok ⟨name, none⟩
  | _ :: value => .ok ⟨name, some (String.ofList (value.takeWhile (· != '=')))⟩

/-- Reads one character, which stands at a position. -/
def Scan.step (text : List Char) (scan : Scan) : Nat × Char → Except DirectiveError Scan
  | (here, c) =>
    let directive := scan.directive
    match scan.place, c with
    | .start, '[' => .ok { scan with place := .scope (here + 1) }
    | .start, c => if startsName c then .ok { scan with place := .name } else .error .malformed
    | .name, '=' => do
      let target := String.ofList (← part text 0 here)
      return ⟨.limit (here + 1), { directive with target := some target }⟩
    | .name, '[' => do
      let target := String.ofList (← part text 0 here)
      return ⟨.scope (here + 1), { directive with target := some target }⟩
    | .name, _ => .ok scan
    | .scope since, ']' => do
      let scope := String.ofList (← part text since here)
      return ⟨.scopeEnd, { directive with scope := some scope }⟩
    | .scope since, '\x7b' => do
      let scope := String.ofList (← part text since here)
      return ⟨.field (here + 1), { directive with scope := (some scope).filter (!·.isEmpty) }⟩
    | .scope _, _ => .ok scan
    | .field since, '\x7d' => do
      let field ← readField (← part text since here)
      return ⟨.fieldEnd, { directive with fields := directive.fields ++ [field] }⟩
    | .field _, _ => .ok scan
    | .fieldEnd, ']' => .ok { scan with place := .scopeEnd }
    | .scopeEnd, '=' => .ok { scan with place := .limit (here + 1) }
    | .limit _, _ => .ok scan
    | _, _ => .error .malformed

/-- The directive of a name that stands alone: a limit for all reports, or a target all of whose reports are
shown. -/
def ofName (text : List Char) : Directive :=
  match Limit.read? text with
  | some limit => general limit
  | none => { general .everything with target := some (String.ofList text) }

/-- Ends the reading of a text. Without a limit all reports are shown. -/
def Scan.finish (text : List Char) (scan : Scan) : Except DirectiveError Directive :=
  match scan.place with
  | .name => .ok (ofName text)
  | .scopeEnd => .ok scan.directive
  | .limit since => do
    match ← part text since (Text.byteSize text) with
    | [] => return scan.directive
    | word =>
      match Limit.read? word with
      | some limit => return { scan.directive with limit := limit }
      | none => .error .unknownLimit
  | _ => .error .malformed

/-- Reads a directive. -/
def read (text : List Char) : Except DirectiveError Directive := do
  let scan ← (Text.withPositions 0 (Text.trim text)).foldlM (Scan.step text) .start
  scan.finish text

/-- Blanks alone are no directive. -/
theorem read_of_blank {text : List Char} (h : Text.trim text = []) : read text = .error .malformed := by
  rw [read, h]
  rfl

/-- Up to an equals sign or a bracket, everything belongs to the name that comes first. -/
theorem scan_name {directive : Directive} {cs : List Char} (text : List Char) (n : Nat)
    (h : ∀ c ∈ cs, c ≠ '=' ∧ c ≠ '[') :
    (Text.withPositions n cs).foldlM (Scan.step text) ⟨.name, directive⟩ = .ok ⟨.name, directive⟩ := by
  induction cs generalizing n with
  | nil => rfl
  | cons c cs ih =>
    have step : Scan.step text ⟨.name, directive⟩ (n, c) = .ok ⟨.name, directive⟩ := by
      obtain ⟨equals, bracket⟩ := h c List.mem_cons_self
      simp only [Scan.step]
    rw [Text.withPositions, List.foldlM_cons, step]
    exact ih _ fun c mem => h c (List.mem_cons_of_mem _ mem)

/-- A limit that stands alone is the limit of all reports. -/
theorem read_word {c : Char} {cs : List Char} {limit : Limit} (trimmed : Text.trim (c :: cs) = c :: cs)
    (starts : startsName c = true) (plain : ∀ d ∈ cs, d ≠ '=' ∧ d ≠ '[')
    (word : Limit.read? (c :: cs) = some limit) : read (c :: cs) = .ok (general limit) := by
  have step : Scan.step (c :: cs) .start (0, c) = .ok ⟨.name, general .everything⟩ := by
    have bracket : c ≠ '[' := by
      rintro rfl
      exact absurd starts (by decide +kernel)
    simp only [Scan.step, Scan.start]
    rw [if_pos starts]
  rw [read, trimmed, Text.withPositions, List.foldlM_cons, step]
  have rest := @scan_name (general .everything) cs (c :: cs) (0 + c.utf8Size) plain
  simp only [bind, Except.bind] at rest ⊢
  rw [rest]
  simp [Scan.finish, ofName, word]

end Directive

end FeatureQuery.Log
