import FeatureQuery.Log.Directive
import FeatureQuery.Log.Report
import FeatureQuery.Number.Double.Text
import FeatureQuery.Text.Split

/-!
# Policies

A policy decides which reports are shown. Its directives work in two ways.

A directive without a scope and without values decides about single reports: of those that fit a report, the
most specific one sets its limit. A directive with a scope or with fields is about all that is told within a
scope: if it fits the scope, all reports inside are shown up to its limit, wherever they are from. A
directive with fields but no values works in both ways.

Scopes themselves are shown and have steps only if their level is within the highest limit of all directives,
and if one of the directives wants them.

## Main results

* `not_admits_of_uncovered`: a report is not shown if no directive fits it or its scope.
* `admits_general`: one directive for all reports shows those within its limit.
* `read_of_commas`: commas alone are read as the policy without directives.
* `readLeniently_of_read`: about a policy that is in order there are no complaints.
-/

namespace FeatureQuery.Log

/-! ### What fits -/

namespace Directive

/-- The directive decides about single reports. -/
def isSingle (directive : Directive) : Bool :=
  directive.scope.isNone && directive.fields.all (·.value.isNone)

/-- The directive is about all that is told within a scope. -/
def isScoped (directive : Directive) : Bool :=
  directive.scope.isSome || !directive.fields.isEmpty

/-- A target starts as asked for. -/
def coversTarget (directive : Directive) (target : String) : Bool :=
  directive.target.all fun start => start.toList.isPrefixOf target.toList

/-- All fields that are asked for are among some names. -/
def findsFields (directive : Directive) (names : List String) : Bool :=
  directive.fields.all fun field => names.contains field.name

/-- The directive fits a report. -/
def coversReport (directive : Directive) (report : Report) : Bool :=
  directive.coversTarget report.target && directive.findsFields report.fieldNames

/-- The directive fits a scope, whatever the values of its fields are. -/
def coversScope (directive : Directive) (scope : Scope) : Bool :=
  directive.coversTarget scope.target && directive.scope.all (· == scope.name)
    && directive.findsFields (scope.details.map (·.1))

/-- A value that is asked for is compared with texts. Numbers and truth values are not. -/
def isTextValue (value : String) : Bool :=
  value != "true" && value != "false" && (Number.Double.read? value.toList).isNone

/-- A scope has the values that are asked for. -/
def findsValues (directive : Directive) (scope : Scope) : Bool :=
  directive.fields.all fun field =>
    field.value.all fun value => isTextValue value && scope.values.contains (field.name, value)

/-- The directive is about the same reports as another one. -/
def sameSubject (a b : Directive) : Bool :=
  a.target == b.target && a.scope == b.scope && a.fields == b.fields

/-- How specific the target of a directive is. -/
def targetWeight (directive : Directive) : Nat :=
  directive.target.elim 0 fun target => Text.byteSize target.toList + 1

/-- Which of two directives for one report is more specific: that with the longer target, then that with more
fields, then that with the later names. -/
def compareWeight (a b : Directive) : Ordering :=
  (compare a.targetWeight b.targetWeight).then <|
    (compare a.fields.length b.fields.length).then <|
      compare (a.fields.map (·.name)) (b.fields.map (·.name))

/-- The most specific of some directives. Of two that are equal the later one counts. -/
def mostSpecific? : List Directive → Option Directive
  | [] => none
  | directive :: rest =>
    match mostSpecific? rest with
    | none => some directive
    | some other => if directive.compareWeight other = .gt then some directive else some other

end Directive

/-! ### Policies -/

/-- The directives that decide which reports are shown. -/
structure Policy where
  directives : List Directive
  deriving DecidableEq

namespace Policy

/-- The highest limit of some directives. -/
def highest (directives : List Directive) : Limit :=
  directives.foldr (fun directive => Limit.max directive.limit) .nothing

/-- The limit for scopes. Values are compared inside, so directives with values let all scopes through. -/
def ceiling (policy : Policy) : Limit :=
  if policy.directives.any fun directive => directive.fields.any (·.value.isSome) then .everything
  else highest policy.directives

/-- The directives about scopes. A later one replaces those before it that are about the same reports. -/
def scopeDirectives (policy : Policy) : List Directive :=
  (policy.directives.filter (·.isScoped)).foldr
    (fun directive rest => if rest.any directive.sameSubject then rest else directive :: rest) []

/-- The limit that is set by the most specific directive of those that fit. -/
def singleLimit (policy : Policy) (fits : Directive → Bool) : Limit :=
  (Directive.mostSpecific? (policy.directives.filter fun directive =>
    directive.isSingle && fits directive)).elim .nothing (·.limit)

/-- A scope is shown, and what happens in it belongs to it. -/
def opens (policy : Policy) (scope : Scope) : Bool :=
  policy.ceiling.allows scope.level
    && (policy.scopeDirectives.any (·.coversScope scope)
      || (policy.singleLimit (·.coversTarget scope.target)).allows scope.level)

/-- The limit for what is told within a scope. -/
def limitWithin (policy : Policy) (scope : Scope) : Limit :=
  highest (policy.scopeDirectives.filter fun directive =>
    directive.coversScope scope && directive.findsValues scope)

/-- A report is shown. -/
def admits (policy : Policy) (report : Report) : Bool :=
  (policy.singleLimit (·.coversReport report)).allows report.level
    || report.scope.any fun scope =>
      policy.opens scope && (policy.limitWithin scope).allows report.level

/-- The lines of the reports that are shown. -/
def lines (policy : Policy) (style : Style) (reports : List Report) : List String :=
  (reports.filter policy.admits).map fun report =>
    report.line style (report.scope.any policy.opens)

/-- Directives about scopes are directives of the policy. -/
theorem mem_of_mem_scopeDirectives {policy : Policy} {directive : Directive}
    (h : directive ∈ policy.scopeDirectives) : directive ∈ policy.directives := by
  have hkept : ∀ directives : List Directive,
      directive ∈ directives.foldr (fun directive rest =>
        if rest.any directive.sameSubject then rest else directive :: rest) [] → directive ∈ directives := by
    intro directives
    induction directives with
    | nil => exact id
    | cons first rest ih =>
      rw [List.foldr_cons]
      split
      · exact fun hmem => List.mem_cons_of_mem _ (ih hmem)
      · intro hmem
        rcases List.mem_cons.1 hmem with rfl | hmem
        · exact List.mem_cons_self
        · exact List.mem_cons_of_mem _ (ih hmem)
  exact (List.mem_filter.1 (hkept _ h)).1

/-- A report is not shown if no directive fits it or its scope. -/
theorem not_admits_of_uncovered {policy : Policy} {report : Report}
    (single : ∀ directive ∈ policy.directives, directive.coversReport report = false)
    (within : ∀ directive ∈ policy.directives, ∀ scope, report.scope = some scope →
      directive.coversScope scope = false) :
    policy.admits report = false := by
  have hsingle : policy.singleLimit (·.coversReport report) = .nothing := by
    rw [singleLimit, List.filter_eq_nil_iff.2]
    · rfl
    · intro directive hmem
      rw [single directive hmem, Bool.and_false]
      exact Bool.false_ne_true
  have hwithin : ∀ scope, report.scope = some scope → policy.limitWithin scope = .nothing := by
    intro scope hscope
    rw [limitWithin, List.filter_eq_nil_iff.2]
    · rfl
    · intro directive hmem
      rw [within directive (mem_of_mem_scopeDirectives hmem) scope hscope, Bool.false_and]
      exact Bool.false_ne_true
  rw [admits, hsingle, Limit.allows_nothing, Bool.false_or]
  cases hscope : report.scope with
  | none => rfl
  | some scope =>
    rw [Option.any_some, hwithin scope hscope, Limit.allows_nothing, Bool.and_false]

/-- One directive for all reports shows those within its limit. -/
theorem admits_general (limit : Limit) (report : Report) :
    admits ⟨[.general limit]⟩ report = limit.allows report.level := by
  have single (fits : Directive → Bool) (h : fits (.general limit) = true) :
      singleLimit ⟨[.general limit]⟩ fits = limit := by
    have : ([Directive.general limit].filter fun directive => directive.isSingle && fits directive)
        = [.general limit] := by
      rw [List.filter_cons_of_pos (by rw [h]; rfl), List.filter_nil]
    rw [singleLimit, this]
    rfl
  have within (scope : Scope) : limitWithin ⟨[.general limit]⟩ scope = .nothing := rfl
  rw [admits, single _ rfl]
  cases scope : report.scope <;> simp [within, Limit.allows_nothing]

/-! ### Reading -/

/-- The texts of the directives of a policy: they stand between commas, and empty ones do not count. -/
def directiveTexts (text : List Char) : List (List Char) :=
  Text.wordsBetween (· == ',') text

/-- Reads a policy. All directives have to be in order. -/
def read (text : List Char) : Except DirectiveError Policy :=
  .mk <$> (directiveTexts text).mapM Directive.read

/-- Commas alone are read as the policy without directives. -/
theorem read_of_commas {text : List Char} (h : ∀ c ∈ text, c = ',') : read text = .ok ⟨[]⟩ := by
  have htexts : directiveTexts text = [] := by
    induction text with
    | nil => rfl
    | cons c cs ih =>
      obtain ⟨rfl, hcs⟩ := List.forall_mem_cons.1 h
      exact ih hcs
  rw [read, htexts]
  rfl

/-- What is said about a directive that is passed over. -/
def complaint (text : List Char) (e : DirectiveError) : String :=
  "ignoring `" ++ String.ofList text ++ "`: " ++ e.message

/-- Reads the directives that are in order, and complains about the others. There are none if the reading
is broken off because a part starts or ends inside a character. -/
def readEach : List (List Char) → List String × Option (List Directive)
  | [] => ([], some [])
  | text :: texts =>
    match Directive.read text with
    | .error .insideCharacter => ([], none)
    | .error e =>
      let (complaints, directives) := readEach texts
      (complaint text e :: complaints, directives)
    | .ok directive =>
      let (complaints, directives) := readEach texts
      (complaints, directives.map (directive :: ·))

/-- Reads what can be read of a policy. -/
def readLeniently (text : List Char) : List String × Option Policy :=
  let (complaints, directives) := readEach (directiveTexts text)
  (complaints, directives.map .mk)

/-- Directives that are all in order are read without complaints. -/
theorem readEach_of_mapM {texts : List (List Char)} {directives : List Directive}
    (h : texts.mapM Directive.read = .ok directives) : readEach texts = ([], some directives) := by
  induction texts generalizing directives with
  | nil =>
    obtain rfl := Except.ok.inj h
    rfl
  | cons text texts ih =>
    rw [List.mapM_cons] at h
    cases first : Directive.read text with
    | error e => simp [first, bind, Except.bind] at h
    | ok directive =>
      cases others : texts.mapM Directive.read with
      | error e => simp [first, others, bind, Except.bind] at h
      | ok rest =>
        simp only [first, others, bind, Except.bind] at h
        obtain rfl := Except.ok.inj h
        simp [readEach, first, ih others]

/-- About a policy that is in order there are no complaints. -/
theorem readLeniently_of_read {text : List Char} {policy : Policy} (h : read text = .ok policy) :
    readLeniently text = ([], some policy) := by
  cases readings : (directiveTexts text).mapM Directive.read with
  | error e =>
    rw [read, readings] at h
    exact nomatch h
  | ok directives =>
    rw [read, readings] at h
    obtain rfl := Except.ok.inj h
    simp [readLeniently, readEach_of_mapM readings]

end Policy

end FeatureQuery.Log
