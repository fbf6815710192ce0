import FeatureQuery.CommandLine.Arguments
import FeatureQuery.Engine.Reports
import FeatureQuery.Log.Policy

/-!
# Running a command

One run of the program: it reads its settings and a fixture, answers one request, and writes the page.
What it does is told on the way. A filter says which reports are shown; without one, or if it is not in order,
those up to the log level are.

## Main results

* `run_of_usage`: refused arguments end the run with code 2.
* `run_of_problems`: options with problems end it with code 1 and a line for each of them.
* `run_of_environment`: settings without a reading break it off.
* `policyFor_of_read`: a filter that is in order takes the place of the log level.
-/

namespace FeatureQuery.CommandLine

open FeatureQuery.Log (Policy Report Style)
open FeatureQuery.Time (Instant)

/-- How a run ends. -/
structure Exit where
  code : Nat
  /-- What is written to the standard output. -/
  output : String
  /-- The lines that are written to the standard error. -/
  errors : List String
  deriving DecidableEq

namespace Exit

/-- An end for reasons of the configuration, after some lines. -/
def misconfigured (lines problems : List String) : Exit :=
  ⟨1, "", lines ++ problems.map ("Configuration error: " ++ ·)⟩

/-- An end for another reason, after some lines. -/
def failed (lines : List String) (message : String) : Exit :=
  ⟨1, "", lines ++ ["Error: " ++ message]⟩

/-- An end without a reason, after some lines: the settings have no reading. -/
def brokenOff (lines : List String) : Exit :=
  ⟨101, "", lines⟩

/-- An end because of the arguments. Help is no failure. -/
def refused : UsageError → Exit
  | .help => ⟨0, "", []⟩
  | _ => ⟨2, "", []⟩

end Exit

/-! ### Telling what is done -/

/-- How a run tells what it does. -/
structure Logger where
  /-- What is wrong with the policy. -/
  complaints : List String
  policy : Policy
  style : Style

/-- All lines of a run with some reports. -/
def Logger.lines (logger : Logger) (reports : List Report) : List String :=
  logger.complaints ++ logger.policy.lines logger.style reports

/-- The directives that show the reports of the program up to a level. -/
def levelDirectives (level : String) : String :=
  "radar_search=" ++ level ++ ",radar=" ++ level

/-- The policy of a run with what is wrong with it. There is none if its reading is broken off. -/
def policyFor (filter : Option String) (level : String) : List String × Option Policy :=
  match filter.map fun text => Policy.read text.toList with
  | some (.ok policy) => ([], some policy)
  | some (.error .insideCharacter) => ([], none)
  | _ => Policy.readLeniently (levelDirectives level).toList

/-- A filter that is in order decides, and nothing is said about it. -/
theorem policyFor_of_read {filter : String} {policy : Policy} (level : String)
    (h : Policy.read filter.toList = .ok policy) : policyFor (some filter) level = ([], some policy) := by
  simp [policyFor, h]

/-- Lines have colours unless a variable forbids it. -/
def styleFor (environment : List (String × String)) : Style :=
  match environment.lookup "NO_COLOR" with
  | none | some "" => .coloured
  | some _ => .plain

/-! ### Answering the request -/

namespace Options

/-- The permissions of the caller. -/
def permissions (options : Options) : Permissions :=
  match options.caller with
  | none => .none
  | some caller =>
    let person := Identity.ofEmail caller
    let granted := Permissions.none.grantGates person options.callerGateTypes
    if options.callerSeesUnlisted then granted.grantUnlisted person else granted

/-- What the request is evaluated against. -/
def context (options : Options) (clock : Instant) : Context :=
  ⟨options.now.getD clock, options.currentStable, options.caller.map .ofEmail⟩

/-- The request. -/
def request (options : Options) : Except SearchError Request := do
  let request ← Request.read options.query options.sort options.start options.num
  return { request with
    visibility := ⟨options.showUnlisted, options.showDeleted, options.showEnterprise⟩
    namesOnly := options.namesOnly }

/-- The engine that answers the request from a store. -/
def engine (options : Options) (config : Config) (store : Store) : Engine :=
  ⟨store, options.permissions, config, some (.working config.cacheTtl)⟩

/-- The page of the request on a store. -/
def page (options : Options) (config : Config) (store : Store) (clock : Instant) :
    Noted (Except SearchError Page) :=
  match options.request with
  | .error e => pure (.error e)
  | .ok request => (·.1) <$> (options.engine config store).run 0 request (options.context clock)

/-- All that is told about a run once its store is there. -/
def reports (options : Options) (config : Config) (store : Store) (clock : Instant) : List Report :=
  let loaded : Report :=
    ⟨.info, "radar", none, "Loaded fixture",
     [("fixture", options.fixture), ("features", toString store.size)]⟩
  let context := options.context clock
  match options.request with
  | .error _ => [loaded]
  | .ok request =>
    let running : Report :=
      ⟨.debug, "radar", none, "Running query",
       [("query", request.query), ("anonymous", toString context.isAnonymous)]⟩
    loaded :: running :: (options.engine config store).reports 0 request context

/-- The end of a run whose settings are in order, given the text of the fixture if it can be read. -/
def finish (options : Options) (config : Config) (logger : Logger) (fixture : Option String)
    (clock : Instant) : Exit :=
  match fixture with
  | none => .failed (logger.lines []) ("reading fixture " ++ options.fixture)
  | some text =>
    match Store.read text with
    | .error _ => .failed (logger.lines []) ("loading fixture " ++ options.fixture)
    | .ok store =>
      let lines := logger.lines (options.reports config store clock)
      match (options.page config store clock).value with
      | .error e => .failed lines e.message
      | .ok page => ⟨0, page.toJson.pretty ++ "\n", lines⟩

end Options

/-! ### Runs -/

/-- What a run is to do. -/
structure Assignment where
  options : Options
  config : Config
  logger : Logger

/-- The settings of a run, which must be in order. The filter says which reports are shown. -/
def prepare (arguments : List String) (environment : List (String × String)) (filter : Option String) :
    Except Exit Assignment :=
  match Options.read arguments environment with
  | .error e => .error (.refused e)
  | .ok options =>
    match policyFor filter options.logLevel with
    | (complaints, none) => .error (.brokenOff complaints)
    | (complaints, some policy) =>
      if options.problems ≠ [] then .error (.misconfigured complaints options.problems)
      else
        match Config.ofEnvironment environment with
        | .error _ => .error (.brokenOff complaints)
        | .ok config =>
          if config.problems ≠ [] then .error (.misconfigured complaints config.problems)
          else .ok ⟨options, config, complaints, policy, styleFor environment⟩

/-- The end of a run. -/
def run (arguments : List String) (environment : List (String × String)) (filter : Option String)
    (readFile : String → Option String) (clock : Instant) : Exit :=
  match prepare arguments environment filter with
  | .error exit => exit
  | .ok ⟨options, config, logger⟩ => options.finish config logger (readFile options.fixture) clock

section

variable {arguments : List String} {environment : List (String × String)} {options : Options}
variable {complaints : List String} {policy : Policy}

/-- Arguments that cannot be read are refused before anything else happens. -/
theorem run_of_usage {e : UsageError} (filter : Option String) (readFile : String → Option String)
    (clock : Instant) (h : Options.read arguments environment = .error e) :
    run arguments environment filter readFile clock = .refused e := by
  simp only [run, prepare, h]

/-- Options with problems are refused, after what is said about the filter. -/
theorem run_of_problems {filter : Option String} (readFile : String → Option String) (clock : Instant)
    (h : Options.read arguments environment = .ok options)
    (told : policyFor filter options.logLevel = (complaints, some policy))
    (problems : options.problems ≠ []) :
    run arguments environment filter readFile clock = .misconfigured complaints options.problems := by
  simp [run, prepare, h, told, problems]

/-- A run whose settings have no reading is broken off. -/
theorem run_of_environment {filter : Option String} {e : Time.SpanError}
    (readFile : String → Option String) (clock : Instant)
    (h : Options.read arguments environment = .ok options)
    (told : policyFor filter options.logLevel = (complaints, some policy))
    (inOrder : options.problems = []) (lost : Config.ofEnvironment environment = .error e) :
    run arguments environment filter readFile clock = .brokenOff complaints := by
  simp [run, prepare, h, told, inOrder, lost]

end

end FeatureQuery.CommandLine
