import FeatureQuery.Text.Blank

/-!
# Lengths of time

A length of time is a number of nanoseconds. It is written as a sum of units from years down to
nanoseconds, where a month is 30.44 days and a year 365.25 days, and read from a sum of numbers with
units. Numbers may have a fraction, which must come out as a whole number of nanoseconds, or of seconds
for units from an hour on.

The seconds of a length fit into 64 bits. A sum that is too long is refused like any other text that is no
length, except where nanoseconds complete the one second after the last: such a text has no reading at all.

## Main results

* `Span.add_nanos_eq_overflow_iff`: when a sum has no reading.
* `Span.quotient?_eq_some_iff`: only exact quotients are taken.
* `Span.parts_ne_nil`: a length other than zero is written with a part at least.
* `TimeUnit.ofName?_name`: every unit is read by its own name.
-/

namespace FeatureQuery.Time

/-- A length of time. -/
structure Span where
  nanos : Nat
  deriving DecidableEq

/-- Why a text gives no length of time. -/
inductive SpanError where
  /-- The text is refused: it is no sum of numbers with units, or it is too large. -/
  | unreadable
  /-- The nanoseconds complete the second after the last. -/
  | overflow
  deriving DecidableEq

/-- A number of milliseconds. -/
def Span.ofMillis (millis : Nat) : Span :=
  ⟨millis * 1000000⟩

/-- The units that lengths of time are read in. -/
inductive TimeUnit where
  | nanosecond | microsecond | millisecond | second | minute | hour | day | week | month | year
  deriving DecidableEq

namespace TimeUnit

/-- The names of each unit. The names are case-sensitive: `m` is a minute and `M` a month. -/
def names : TimeUnit → List String
  | nanosecond => ["ns", "nsec", "nanos"]
  | microsecond => ["us", "usec", "µs"]
  | millisecond => ["ms", "msec", "millis"]
  | second => ["s", "sec", "secs", "second", "seconds"]
  | minute => ["m", "min", "mins", "minute", "minutes"]
  | hour => ["h", "hr", "hrs", "hour", "hours"]
  | day => ["d", "day", "days"]
  | week => ["w", "wk", "wks", "week", "weeks"]
  | month => ["M", "month", "months"]
  | year => ["y", "yr", "yrs", "year", "years"]

/-- All units. -/
def all : List TimeUnit :=
  [nanosecond, microsecond, millisecond, second, minute, hour, day, week, month, year]

/-- The unit of a name. -/
def ofName? (name : String) : Option TimeUnit :=
  all.find? fun unit => unit.names.contains name

/-- Whether a unit is counted in nanoseconds or in seconds. -/
inductive Grain where
  | nanos (count : Nat)
  | seconds (count : Nat)

/-- The length of a unit. -/
def length : TimeUnit → Grain
  | nanosecond => .nanos 1
  | microsecond => .nanos 1000
  | millisecond => .nanos 1000000
  | second => .seconds 1
  | minute => .seconds 60
  | hour => .seconds 3600
  | day => .seconds 86400
  | week => .seconds 604800
  | month => .seconds 2630016
  | year => .seconds 31557600

/-- The length of a unit for the fraction of a number. A nanosecond has no parts. -/
def fractionLength? : TimeUnit → Option Grain
  | nanosecond => none
  | second => some (.nanos 1000000000)
  | minute => some (.nanos 60000000000)
  | unit => some unit.length

end TimeUnit

namespace Span

/-! ### Reading -/

/-- What is missing makes a text unreadable. -/
def orUnreadable : Option α → Except SpanError α
  | some x => .ok x
  | none => .error .unreadable

/-- Numbers of a length of time are kept in 64 bits. -/
def word (n : Nat) : Except SpanError Nat :=
  if n < UInt64.size then .ok n else .error .unreadable

/-- A number that fits is kept. -/
theorem word_of_lt {n : Nat} (h : n < UInt64.size) : word n = .ok n :=
  if_pos h

/-- A number that does not fit is refused. -/
theorem word_of_le {n : Nat} (h : UInt64.size ≤ n) : word n = .error .unreadable :=
  if_neg (Nat.not_lt.2 h)

/-- A length with a grain added: nanoseconds are added to the running fraction of a second. -/
def add (span : Span) : TimeUnit.Grain → Except SpanError Span
  | .nanos count => do
    let seconds := span.nanos / 1000000000
    let part ← word (span.nanos % 1000000000 + count)
    if part = 1000000000 ∧ seconds + 1 = UInt64.size then throw .overflow
    let _ ← word (seconds + part / 1000000000)
    return ⟨seconds * 1000000000 + part⟩
  | .seconds count => do
    let _ ← word (span.nanos / 1000000000 + count)
    return ⟨span.nanos + count * 1000000000⟩

/-- A sum has no reading exactly if nanoseconds complete the second after the last. -/
theorem add_nanos_eq_overflow_iff {span : Span} {count : Nat} :
    span.add (.nanos count) = .error .overflow ↔
      span.nanos % 1000000000 + count = 1000000000 ∧
        span.nanos / 1000000000 + 1 = UInt64.size := by
  rw [add]
  generalize span.nanos % 1000000000 + count = part
  generalize span.nanos / 1000000000 = seconds
  rcases Nat.lt_or_ge part UInt64.size with fits | large
  · rw [word_of_lt fits]
    show (if part = 1000000000 ∧ seconds + 1 = UInt64.size then throw SpanError.overflow else _) = _ ↔ _
    split
    · next full => exact ⟨fun _ => full, fun _ => rfl⟩
    · next some =>
      rcases Nat.lt_or_ge (seconds + part / 1000000000) UInt64.size with kept | long
      · rw [word_of_lt kept]
        exact ⟨nofun, fun full => absurd full some⟩
      · rw [word_of_le long]
        exact ⟨nofun, fun full => absurd full some⟩
  · have small : 1000000000 < UInt64.size := by decide
    rw [word_of_le large]
    exact ⟨nofun, fun full => by omega⟩

/-- The quotient of two numbers, if nothing is left over. -/
def quotient? (n divisor : Nat) : Option Nat :=
  if n % divisor = 0 then some (n / divisor) else none

/-- Only exact quotients are taken. -/
theorem quotient?_eq_some_iff {n divisor q : Nat} (h : 0 < divisor) :
    quotient? n divisor = some q ↔ n = q * divisor := by
  rw [quotient?]
  split
  · next whole =>
    rw [Option.some.injEq, Nat.div_eq_iff_eq_mul_left h (Nat.dvd_of_mod_eq_zero whole)]
  · next rest =>
    constructor
    · intro found
      exact nomatch found
    · rintro rfl
      exact absurd (Nat.mul_mod_left q divisor) rest

/-- A grain some number of times, divided without a rest. -/
def scale (grain : TimeUnit.Grain) (factor divisor : Nat) : Except SpanError TimeUnit.Grain :=
  match grain with
  | .nanos count => do return .nanos (← orUnreadable (quotient? (← word (factor * count)) divisor))
  | .seconds count => do return .seconds (← orUnreadable (quotient? (← word (factor * count)) divisor))

/-- The fraction of a number: its digits and the power of ten that they are over. -/
structure Fraction where
  numerator : Nat
  denominator : Nat

/-- A length with a number of a unit added. -/
def addUnits (span : Span) (whole : Nat) (fraction : Option Fraction) (name : List Char) :
    Except SpanError Span := do
  let unit ← orUnreadable (TimeUnit.ofName? (String.ofList name))
  let span ← span.add (← scale unit.length whole 1)
  match fraction with
  | none => return span
  | some part =>
    span.add (← scale (← orUnreadable unit.fractionLength?) part.numerator part.denominator)

/-- What a reader of lengths of time has met last. -/
inductive Reading where
  /-- Nothing but blanks. -/
  | start
  /-- A number with its unit, and perhaps blanks. -/
  | between (total : Span)
  /-- Digits before a point; blanks among them do not count. -/
  | whole (total : Span) (n : Nat)
  /-- Digits after a point. -/
  | fraction (total : Span) (n : Nat) (part : Fraction)
  /-- Letters of a unit, the last one first. -/
  | unit (total : Span) (n : Nat) (part : Option Fraction) (letters : List Char)

/-- A character of a unit's name. -/
def isUnitLetter (c : Char) : Bool :=
  c.isAlpha || c == 'µ'

/-- The value of a digit. -/
def digitValue (c : Char) : Nat :=
  c.toNat - '0'.toNat

/-- One more character. -/
def step (reading : Reading) (c : Char) : Except SpanError Reading :=
  match reading with
  | .start =>
    if c.isDigit then .ok (.whole ⟨0⟩ (digitValue c))
    else if Text.isBlank c then .ok .start
    else .error .unreadable
  | .between total =>
    if c.isDigit then .ok (.whole total (digitValue c))
    else if Text.isBlank c then .ok (.between total)
    else .error .unreadable
  | .whole total n =>
    if c.isDigit then do return .whole total (← word (10 * n + digitValue c))
    else if Text.isBlank c then .ok (.whole total n)
    else if isUnitLetter c then .ok (.unit total n none [c])
    else if c = '.' then .ok (.fraction total n ⟨0, 1⟩)
    else .error .unreadable
  | .fraction total n part =>
    if c.isDigit then do
      let denominator ← word (10 * part.denominator)
      let numerator ← word (10 * part.numerator + digitValue c)
      return .fraction total n ⟨numerator, denominator⟩
    else if Text.isBlank c then .ok (.fraction total n part)
    else if isUnitLetter c ∧ part.denominator ≠ 1 then .ok (.unit total n (some part) [c])
    else .error .unreadable
  | .unit total n part letters =>
    if isUnitLetter c then .ok (.unit total n part (c :: letters))
    else if c.isDigit then do
      return .whole (← total.addUnits n part letters.reverse) (digitValue c)
    else if Text.isBlank c then do
      return .between (← total.addUnits n part letters.reverse)
    else .error .unreadable

/-- The length that has been read at the end of a text. -/
def finish : Reading → Except SpanError Span
  | .between total => .ok total
  | .unit total n part letters => total.addUnits n part letters.reverse
  | _ => .error .unreadable

/-- Reads a length of time. Zero needs no unit. -/
def read (cs : List Char) : Except SpanError Span :=
  if cs = ['0'] then .ok ⟨0⟩
  else do finish (← cs.foldlM step .start)

/-! ### Writing -/

/-- The units that lengths are written in, each with its length in nanoseconds and whether its name
takes a plural. -/
def writtenUnits : List (String × Nat × Bool) :=
  [("year", 31557600000000000, true), ("month", 2630016000000000, true),
   ("day", 86400000000000, true), ("h", 3600000000000, false), ("m", 60000000000, false),
   ("s", 1000000000, false), ("ms", 1000000, false), ("us", 1000, false), ("ns", 1, false)]

/-- The parts of a length, the largest unit first, without the units that do not occur. -/
def parts : List (String × Nat × Bool) → Nat → List String
  | [], _ => []
  | (name, length, plural) :: units, nanos =>
    let count := nanos / length
    let rest := parts units (nanos % length)
    if count = 0 then rest
    else (toString count ++ name ++ (if plural && 1 < count then "s" else "")) :: rest

/-- Where there is a unit of length one, only zero has no parts. -/
theorem eq_zero_of_parts_eq_nil {units : List (String × Nat × Bool)} {nanos : Nat}
    (hone : ∃ unit ∈ units, unit.2.1 = 1) (h : parts units nanos = []) : nanos = 0 := by
  induction units generalizing nanos with
  | nil => obtain ⟨unit, hmem, -⟩ := hone; exact absurd hmem List.not_mem_nil
  | cons unit units ih =>
    obtain ⟨name, length, plural⟩ := unit
    rw [parts] at h
    split at h
    · next hcount =>
      have hrest : nanos % length = nanos := by
        have := Nat.div_add_mod nanos length
        rwa [hcount, Nat.mul_zero, Nat.zero_add] at this
      rw [hrest] at h
      obtain ⟨other, hmem, hother⟩ := hone
      rcases List.mem_cons.1 hmem with rfl | hmem
      · rwa [show length = 1 from hother, Nat.div_one] at hcount
      · exact ih ⟨other, hmem, hother⟩ h
    · exact absurd h (List.cons_ne_nil _ _)

/-- A length other than zero is written with a part at least. -/
theorem parts_ne_nil {nanos : Nat} (h : nanos ≠ 0) : parts writtenUnits nanos ≠ [] :=
  mt (eq_zero_of_parts_eq_nil ⟨("ns", 1, false), by simp [writtenUnits], rfl⟩) h

/-- The text of a length of time. -/
def text (span : Span) : String :=
  if span.nanos = 0 then "0s" else " ".intercalate (parts writtenUnits span.nanos)

end Span

/-- Every unit is found by each of its names. -/
theorem TimeUnit.ofName?_name (unit : TimeUnit) :
    unit.names.all fun name => TimeUnit.ofName? name = some unit := by
  cases unit <;> decide +kernel

end FeatureQuery.Time
