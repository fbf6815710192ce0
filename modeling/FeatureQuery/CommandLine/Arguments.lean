import FeatureQuery.Number.Integer
import FeatureQuery.Text.Split
import FeatureQuery.Time.Rfc3339

/-!
# Command-line arguments

Arguments are read from left to right. A parameter takes its value attached, as `--sort=name` or `-sname`,
or from the next argument, as long as that does not look like an option; the bounds of the window take the
next argument whatever it looks like. After `--` all arguments are positional. The value of a parameter is
read once the next argument has shown that it is complete.

A parameter that is not given may be set by an environment variable.

## Main results

* `occur_again`: a parameter that is given twice is refused, except for the gate types.
-/

namespace FeatureQuery.CommandLine

open FeatureQuery.Number (readInt64?)
open FeatureQuery.Time (Instant)

/-! ### Options -/

/-- The options that take a value. -/
inductive Parameter where
  | fixture | sort | start | num | caller | callerGateTypes | currentStable | now | logLevel
  deriving DecidableEq

/-- The options that do not. -/
inductive Switch where
  | showUnlisted | showDeleted | showEnterprise | namesOnly | callerSeesUnlisted
  deriving DecidableEq

/-- The long names of parameters. -/
def Parameter.ofLong? : String → Option Parameter
  | "fixture" => some fixture
  | "sort" => some sort
  | "start" => some start
  | "num" => some num
  | "caller" => some caller
  | "caller-gate-types" => some callerGateTypes
  | "current-stable" => some currentStable
  | "now" => some now
  | "log-level" => some logLevel
  | _ => none

/-- The short names of parameters. -/
def Parameter.ofShort? : Char → Option Parameter
  | 'f' => some fixture
  | 's' => some sort
  | _ => none

/-- The long names of switches. -/
def Switch.ofLong? : String → Option Switch
  | "show-unlisted" => some showUnlisted
  | "show-deleted" => some showDeleted
  | "show-enterprise" => some showEnterprise
  | "names-only" => some namesOnly
  | "caller-sees-unlisted" => some callerSeesUnlisted
  | _ => none

/-- The parameter takes the next argument even if that looks like an option. -/
def Parameter.takesAnything : Parameter → Bool
  | start | num => true
  | _ => false

/-- Why arguments are refused. -/
inductive UsageError where
  /-- Not an error: help is asked for. -/
  | help
  /-- No option or position is left for an argument. -/
  | unknownArgument
  /-- A parameter has no value, or an empty one where that is not allowed. -/
  | noValue
  /-- A value cannot be read. -/
  | unreadableValue
  /-- A switch has a value. -/
  | needlessValue
  /-- An option is given twice. -/
  | repeated
  | missingFixture
  deriving DecidableEq

/-! ### What is given -/

/-- The options that have been read. -/
structure Given where
  query : Option String
  fixture : Option String
  sort : Option String
  start : Option String
  num : Option String
  caller : Option String
  callerGateTypes : Option (List Int64)
  currentStable : Option Int64
  now : Option Instant
  logLevel : Option String
  switches : List Switch

namespace Given

/-- Nothing is given. -/
def nothing : Given := ⟨none, none, none, none, none, none, none, none, none, none, []⟩

/-- A parameter is given. -/
def has (given : Given) : Parameter → Bool
  | .fixture => given.fixture.isSome
  | .sort => given.sort.isSome
  | .start => given.start.isSome
  | .num => given.num.isSome
  | .caller => given.caller.isSome
  | .callerGateTypes => given.callerGateTypes.isSome
  | .currentStable => given.currentStable.isSome
  | .now => given.now.isSome
  | .logLevel => given.logLevel.isSome

/-- Reads an integer. -/
def readNumber (cs : List Char) : Except UsageError Int64 :=
  match readInt64? cs with
  | some n => .ok n
  | none => .error .unreadableValue

/-- A parameter with its value. Gate types stand between commas and add up. -/
def put (given : Given) (p : Parameter) (value : String) : Except UsageError Given :=
  match p with
  | .fixture => if value.isEmpty then .error .noValue else .ok { given with fixture := some value }
  | .sort => .ok { given with sort := some value }
  | .start => .ok { given with start := some value }
  | .num => .ok { given with num := some value }
  | .caller => .ok { given with caller := some value }
  | .callerGateTypes => do
    let types ← (Text.splitWhere (· == ',') value.toList).mapM readNumber
    return { given with callerGateTypes := some (given.callerGateTypes.getD [] ++ types) }
  | .currentStable => do return { given with currentStable := some (← readNumber value.toList) }
  | .now =>
    match Instant.read? value.toList with
    | some t => .ok { given with now := some t }
    | none => .error .unreadableValue
  | .logLevel => .ok { given with logLevel := some value }

/-- A parameter as it occurs among the arguments. -/
def occur (given : Given) (p : Parameter) (value : Option String) : Except UsageError Given :=
  match value with
  | none => .error .noValue
  | some value =>
    if given.has p && p != .callerGateTypes then .error .repeated else given.put p value

/-- A parameter with its value is given. -/
theorem has_of_put {given given' : Given} {p : Parameter} {value : String} (h : given.put p value = .ok given') :
    given'.has p = true := by
  cases p with
  | fixture =>
    rw [put] at h
    split at h
    · cases h
    · cases h
      rfl
  | sort | start | num | caller | logLevel =>
    cases h
    rfl
  | callerGateTypes =>
    rw [put] at h
    cases htypes : (Text.splitWhere (· == ',') value.toList).mapM readNumber with
    | error e =>
      rw [htypes] at h
      cases h
    | ok types =>
      rw [htypes] at h
      cases h
      rfl
  | currentStable =>
    rw [put] at h
    cases hnumber : readNumber value.toList with
    | error e =>
      rw [hnumber] at h
      cases h
    | ok n =>
      rw [hnumber] at h
      cases h
      rfl
  | now =>
    rw [put] at h
    split at h
    · cases h
      rfl
    · cases h

/-- A parameter that is given twice is refused, except for the gate types. -/
theorem occur_again {given given' : Given} {p : Parameter} {value : Option String} (hp : p ≠ .callerGateTypes)
    (h : given.occur p value = .ok given') (again : String) :
    given'.occur p (some again) = .error .repeated := by
  cases value with
  | none => cases h
  | some value =>
    rw [occur] at h
    split at h
    · cases h
    · rw [occur, has_of_put h, if_pos]
      simp [hp]

/-- A switch as it occurs among the arguments. -/
def switchOn (given : Given) (s : Switch) : Except UsageError Given :=
  if given.switches.contains s then .error .repeated
  else .ok { given with switches := given.switches ++ [s] }

/-! ### Environment variables -/

/-- The environment variables of parameters. -/
def sources : List (Parameter × String) :=
  [(.fixture, "RADAR_FIXTURE"), (.sort, "RADAR_SORT"), (.start, "RADAR_START"), (.num, "RADAR_NUM"),
   (.caller, "RADAR_CALLER"), (.callerGateTypes, "RADAR_CALLER_GATE_TYPES"),
   (.currentStable, "RADAR_CURRENT_STABLE"), (.now, "RADAR_NOW"), (.logLevel, "RADAR_LOG_LEVEL")]

/-- The environment variable of the only switch that has one. -/
def seesUnlistedVariable : String := "RADAR_CALLER_SEES_UNLISTED"

/-- What is given, with a parameter from its variable where it is missing. -/
def fill (environment : List (String × String)) (given : Given) (source : Parameter × String) :
    Except UsageError Given :=
  match environment.lookup source.2 with
  | some value => if given.has source.1 then .ok given else given.put source.1 value
  | none => .ok given

/-- What is given, with the switch from its variable, which is `true` or `false`. -/
def fillSwitch (environment : List (String × String)) (given : Given) : Except UsageError Given :=
  if given.switches.contains .callerSeesUnlisted then .ok given
  else
    match environment.lookup seesUnlistedVariable with
    | none | some "false" => .ok given
    | some "true" => .ok { given with switches := given.switches ++ [.callerSeesUnlisted] }
    | some _ => .error .unreadableValue

end Given

/-! ### Reading -/

/-- What a value is for. -/
inductive Slot where
  | query
  | parameter (p : Parameter)
  deriving DecidableEq

/-- Where the reading of arguments stands. -/
structure Progress where
  given : Given
  /-- What was read last, with its value if that has come. -/
  pending : Option (Slot × Option String)
  /-- The query has been read. -/
  hasQuery : Bool
  /-- All further arguments are positional. -/
  onlyPositional : Bool

namespace Progress

/-- Nothing is read. -/
def start : Progress := ⟨.nothing, none, false, false⟩

/-- Takes what was read last as complete. -/
def settle (progress : Progress) : Except UsageError Progress :=
  match progress.pending with
  | none => .ok progress
  | some (.query, value) =>
    .ok { progress with given := { progress.given with query := value }, pending := none }
  | some (.parameter p, value) => do
    return { progress with given := ← progress.given.occur p value, pending := none }

/-- Reads a switch. -/
def readSwitch (progress : Progress) (s : Switch) : Except UsageError Progress := do
  let progress ← progress.settle
  return { progress with given := ← progress.given.switchOn s }

/-- Reads a parameter; without a value attached, that comes next. -/
def readParameter (progress : Progress) (p : Parameter) (attached : Option String) :
    Except UsageError Progress := do
  let progress ← progress.settle
  match attached with
  | some value => return { progress with given := ← progress.given.occur p (some value) }
  | none => return { progress with pending := some (.parameter p, none) }

/-- Reads a request for help. -/
def readHelp (progress : Progress) : Except UsageError Progress := do
  let _ ← progress.settle
  .error .help

/-- Reads an option by its long name. -/
def readLong (progress : Progress) (name : String) (attached : Option String) :
    Except UsageError Progress :=
  match Parameter.ofLong? name, Switch.ofLong? name, attached with
  | some p, _, _ => progress.readParameter p attached
  | none, some s, none => progress.readSwitch s
  | none, some _, some _ => .error .needlessValue
  | none, none, _ =>
    if name != "help" then .error .unknownArgument
    else if attached.isSome then .error .needlessValue
    else progress.readHelp

/-- The value that is attached to a short name. -/
def attachedTo : List Char → Option String
  | [] => none
  | '=' :: value => some (String.ofList value)
  | value => some (String.ofList value)

/-- Reads an option by its short name. -/
def readShort (progress : Progress) (name : Char) (rest : List Char) : Except UsageError Progress :=
  match Parameter.ofShort? name with
  | some p => progress.readParameter p (attachedTo rest)
  | none => if name = 'h' then progress.readHelp else .error .unknownArgument

/-- Reads a positional argument, of which there is one, the query. -/
def readPositional (progress : Progress) (argument : String) : Except UsageError Progress :=
  if progress.hasQuery then .error .unknownArgument
  else do
    let progress ← progress.settle
    return { progress with pending := some (.query, some argument), hasQuery := true }

/-- Reads an argument that is no option: the value of the parameter before it, or the query. -/
def readPlain (progress : Progress) (argument : String) : Except UsageError Progress :=
  match progress.pending with
  | some (slot, none) => .ok { progress with pending := some (slot, some argument) }
  | _ => progress.readPositional argument

/-- Reads an argument by its form. -/
def readByForm (progress : Progress) (argument : String) : Except UsageError Progress :=
  match argument.toList with
  | ['-', '-'] => .ok { progress with onlyPositional := true }
  | '-' :: '-' :: option =>
    let name := String.ofList (option.takeWhile (· != '='))
    match option.dropWhile (· != '=') with
    | [] => progress.readLong name none
    | _ :: value => progress.readLong name (some (String.ofList value))
  | '-' :: name :: rest => progress.readShort name rest
  | _ => progress.readPlain argument

/-- Reads one argument. -/
def read (progress : Progress) (argument : String) : Except UsageError Progress :=
  if progress.onlyPositional then progress.readPositional argument
  else
    match progress.pending with
    | some (.parameter p, none) =>
      if p.takesAnything then progress.readPlain argument else progress.readByForm argument
    | _ => progress.readByForm argument

end Progress

/-! ### Options as a whole -/

/-- What the program is asked to do. -/
structure Options where
  query : String
  fixture : String
  sort : Option String
  start : Option String
  num : Option String
  showUnlisted : Bool
  showDeleted : Bool
  showEnterprise : Bool
  namesOnly : Bool
  caller : Option String
  callerGateTypes : List Int64
  callerSeesUnlisted : Bool
  currentStable : Int64
  now : Option Instant
  logLevel : String
  deriving DecidableEq

namespace Options

/-- The options that are given, with the defaults of the others. -/
def ofGiven (given : Given) : Except UsageError Options :=
  match given.fixture with
  | none => .error .missingFixture
  | some fixture =>
    .ok {
      query := given.query.getD ""
      fixture := fixture
      sort := given.sort
      start := given.start
      num := given.num
      showUnlisted := given.switches.contains .showUnlisted
      showDeleted := given.switches.contains .showDeleted
      showEnterprise := given.switches.contains .showEnterprise
      namesOnly := given.switches.contains .namesOnly
      caller := given.caller
      callerGateTypes := given.callerGateTypes.getD []
      callerSeesUnlisted := given.switches.contains .callerSeesUnlisted
      currentStable := given.currentStable.getD 124
      now := given.now
      logLevel := given.logLevel.getD "warn" }

/-- Reads arguments and environment variables. -/
def read (arguments : List String) (environment : List (String × String)) :
    Except UsageError Options := do
  let progress ← (← arguments.foldlM Progress.read .start).settle
  let given ← Given.sources.foldlM (Given.fill environment) progress.given
  ofGiven (← given.fillSwitch environment)

/-- The levels of the log. -/
def logLevels : List String := ["error", "warn", "info", "debug", "trace"]

/-- What is wrong with some options. -/
def problems (options : Options) : List String :=
  (if options.currentStable ≤ 0 then ["current_stable must be positive"] else [])
    ++ (if options.caller.isNone && (options.callerSeesUnlisted || !options.callerGateTypes.isEmpty) then
        ["caller permissions require --caller"] else [])
    ++ (if logLevels.contains options.logLevel then []
        else ["unknown log level: " ++ options.logLevel])

end Options

end FeatureQuery.CommandLine
