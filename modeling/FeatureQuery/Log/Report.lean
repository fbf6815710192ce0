import FeatureQuery.Log.Level

/-!
# Reports

What is going on is told in reports. A report has a level, a target that says which part of the program it is
from, a message and particulars; it may belong to a scope, the larger work that it is a step of. It is
written in one line, unless its particulars have line ends of their own, with the scope before the message.

## Main results

* `line_false`: a scope that is not shown makes no difference.
-/

namespace FeatureQuery.Log

/-- Particulars by name, in order. -/
abbrev Details := List (String × String)

/-- A larger work that reports belong to. -/
structure Scope where
  name : String
  level : Level
  target : String
  details : Details
  /-- The values of the particulars as they are, where the particulars show them quoted. -/
  values : Details
  deriving DecidableEq

/-- Something that is told. -/
structure Report where
  level : Level
  target : String
  scope : Option Scope
  message : String
  details : Details
  deriving DecidableEq

namespace Report

/-- The names of the fields of a report; the message is one of them. -/
def fieldNames (report : Report) : List String :=
  "message" :: report.details.map (·.1)

/-- The report as a step of a scope. -/
def within (scope : Scope) (report : Report) : Report :=
  { report with scope := some scope }

end Report

/-! ### Lines -/

/-- How lines look. -/
inductive Style where
  | plain
  /-- With colours and other attributes of a terminal. -/
  | coloured
  deriving DecidableEq

namespace Style

/-- A text with an attribute, by its code. -/
def paint (style : Style) (code : Nat) (text : String) : String :=
  match style with
  | plain => text
  | coloured => "\x1b[" ++ toString code ++ "m" ++ text ++ "\x1b[0m"

/-- A text that stands out. -/
def bold (style : Style) : String → String := style.paint 1

/-- A text that stands back. -/
def dim (style : Style) : String → String := style.paint 2

/-- A slanted text. -/
def italic (style : Style) : String → String := style.paint 3

end Style

/-- The text of a level. All have the same width. -/
def Level.label : Level → String
  | error => "ERROR"
  | warn => " WARN"
  | info => " INFO"
  | debug => "DEBUG"
  | trace => "TRACE"

/-- The colour of a level, as the code of an attribute. -/
def Level.colour : Level → Nat
  | error => 31
  | warn => 33
  | info => 32
  | debug => 34
  | trace => 35

/-- The texts of particulars. -/
def detailTexts (style : Style) (details : Details) : List String :=
  details.map fun (name, value) => style.italic name ++ style.dim "=" ++ value

/-- The text of a scope. -/
def Scope.text (style : Style) (scope : Scope) : String :=
  let inside :=
    if scope.details.isEmpty then ""
    else style.bold "\x7b" ++ " ".intercalate (detailTexts style scope.details) ++ style.bold "\x7d"
  style.bold scope.name ++ inside ++ style.dim ":"

/-- The line of a report. Its scope stands in it if that is shown. -/
def Report.line (style : Style) (showsScope : Bool) (report : Report) : String :=
  let scope := if showsScope then report.scope else none
  " ".intercalate
    ([style.paint report.level.colour report.level.label] ++ (scope.map (·.text style)).toList
      ++ [style.dim report.target ++ style.dim ":", report.message] ++ detailTexts style report.details)

/-- A scope that is not shown makes no difference to the line. -/
theorem line_false (style : Style) (report : Report) :
    report.line style false = { report with scope := none }.line style true := by
  simp [Report.line]

end FeatureQuery.Log
