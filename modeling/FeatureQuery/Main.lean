import FeatureQuery.CommandLine.Run
import Std.Time.DateTime.Timestamp

/-!
# The program

Answers one request about the features in a fixture file.

## Main results

* `instantOfEpoch_eq_some_iff`: an instant is so many seconds and nanoseconds after 1 January 1970 if its parts add
  up to these.
-/

namespace FeatureQuery

open FeatureQuery.Time (Instant)

/-- The instant so many seconds and nanoseconds after 1 January 1970. -/
def instantOfEpoch (seconds : Int) (nanos : Nat) : Option Instant :=
  Instant.ofParts? (seconds / Time.secondsPerDay) (seconds % Time.secondsPerDay).toNat nanos

/-- The parts of the instant add up to the seconds and nanoseconds. -/
theorem instantOfEpoch_eq_some_iff {seconds : Int} {nanos : Nat} {t : Instant} :
    instantOfEpoch seconds nanos = some t
      ↔ t.day * Time.secondsPerDay + t.second = seconds ∧ t.nano = nanos := by
  have hsecond := t.second_lt
  rw [instantOfEpoch, Instant.ofParts?_eq_some_iff]
  simp only [Time.secondsPerDay] at hsecond ⊢
  omega

/-- The names of the environment variables that are read. -/
def environmentNames : List String :=
  CommandLine.Given.sources.map (·.2) ++
    [CommandLine.Given.seesUnlistedVariable, "NO_COLOR"] ++ Config.variableNames

/-- The name of the environment variable with the filter of reports. -/
def filterVariable : String := "RUST_LOG"

/-- The environment variables that are set. -/
def environment : IO (List (String × String)) :=
  environmentNames.filterMapM fun name => do
    return (← IO.getEnv name).map fun value => (name, value)

/-- The text of a file, if it can be read. -/
def readFile (path : String) : IO (Option String) := do
  try
    return some (← IO.FS.readFile path)
  catch _ =>
    return none

/-- The present, as far as the clock can say. -/
def clock : IO (Option Instant) := do
  let elapsed := (← Std.Time.Timestamp.now).val
  return instantOfEpoch elapsed.second.val elapsed.nano.val.toNat

/-- Writes what a run ends with. -/
def conclude (exit : CommandLine.Exit) : IO UInt32 := do
  for line in exit.errors do
    IO.eprintln line
  IO.print exit.output
  return exit.code.toUInt32

/-- Runs the program. -/
def runProgram (arguments : List String) : IO UInt32 := do
  match CommandLine.prepare arguments (← environment) (← IO.getEnv filterVariable) with
  | .error exit => conclude exit
  | .ok ⟨options, config, logger⟩ =>
    let fixture ← readFile options.fixture
    match ← clock with
    | some now => conclude (options.finish config logger fixture now)
    | none => conclude (.failed (logger.lines []) "the clock is out of range")

end FeatureQuery

/-- The entry point. -/
def main (arguments : List String) : IO UInt32 :=
  FeatureQuery.runProgram arguments
