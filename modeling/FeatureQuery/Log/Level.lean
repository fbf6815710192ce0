import FeatureQuery.Number.Integer
import FeatureQuery.Text.Lowercase

/-!
# Levels

How much a report matters, and up to what level reports are shown. A limit is read from a word, whose case
does not count, or from a number.

## Main results

* `Limit.allows_everything`: the highest limit allows every level.
* `Limit.allows_max`: the higher of two limits allows what one of them does.
* `Limit.read?_number`: the numbers stand for the limits in order.
-/

namespace FeatureQuery.Log

/-- How much a report matters: the first level has the most serious reports. -/
inductive Level where
  | error | warn | info | debug | trace
  deriving DecidableEq

/-- The place of a level, counted from the most serious one. -/
def Level.rank : Level → Nat
  | error => 1
  | warn => 2
  | info => 3
  | debug => 4
  | trace => 5

/-- The levels up to which reports are shown. -/
inductive Limit where
  /-- No report is shown. -/
  | nothing
  | upTo (level : Level)
  deriving DecidableEq

namespace Limit

/-- The place of a limit, counted from the one that shows nothing. -/
def rank : Limit → Nat
  | nothing => 0
  | upTo level => level.rank

/-- Reports of a level are shown. -/
def allows (limit : Limit) (level : Level) : Bool :=
  decide (level.rank ≤ limit.rank)

/-- All reports are shown. -/
def everything : Limit := upTo .trace

/-- The higher of two limits. -/
def max (a b : Limit) : Limit :=
  if a.rank ≤ b.rank then b else a

/-- The highest limit allows every level. -/
theorem allows_everything (level : Level) : everything.allows level = true := by
  cases level <;> rfl

/-- The lowest limit allows none. -/
theorem allows_nothing (level : Level) : nothing.allows level = false := by
  cases level <;> rfl

/-- The higher of two limits allows what one of them does. -/
theorem allows_max (a b : Limit) (level : Level) :
    (max a b).allows level = (a.allows level || b.allows level) := by
  rw [Bool.eq_iff_iff, max]
  simp only [allows, Bool.or_eq_true, decide_eq_true_eq]
  by_cases h : a.rank ≤ b.rank
  · rw [if_pos h]
    omega
  · rw [if_neg h]
    omega

/-- The limit of a word in lowercase. -/
def ofWord? : String → Option Limit
  | "off" => some nothing
  | "error" => some (upTo .error)
  | "warn" => some (upTo .warn)
  | "info" => some (upTo .info)
  | "debug" => some (upTo .debug)
  | "trace" => some (upTo .trace)
  | _ => none

/-- The limit of a number. -/
def ofNumber? : Nat → Option Limit
  | 0 => some nothing
  | 1 => some (upTo .error)
  | 2 => some (upTo .warn)
  | 3 => some (upTo .info)
  | 4 => some (upTo .debug)
  | 5 => some (upTo .trace)
  | _ => none

/-- Reads a number, which may have a plus before it. -/
def readNumber? : List Char → Option Nat
  | '+' :: digits => Number.readNat? digits
  | digits => Number.readNat? digits

/-- Reads a limit. -/
def read? (cs : List Char) : Option Limit :=
  (readNumber? cs).elim (ofWord? (String.ofList (Text.lowerAscii cs))) ofNumber?

/-- A number stands for the limit in its place. -/
theorem read?_number {cs : List Char} {n : Nat} (h : readNumber? cs = some n) :
    read? cs = ofNumber? n := by
  simp [read?, h]

/-- A limit is found by its place. -/
theorem ofNumber?_rank (limit : Limit) : ofNumber? limit.rank = some limit := by
  rcases limit with _ | level
  · rfl
  · cases level <;> rfl

end Limit

end FeatureQuery.Log
