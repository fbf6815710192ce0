import FeatureQuery.Time.Calendar

/-!
# Instants

A point in time is a day, a second of that day and a fraction of a second in nanoseconds. A fraction of
a whole second or more lies in a leap second, which follows the last second of a minute. Instants exist
from the first day of the year -262143 to the last of the year 262142.

## Main results

* `Instant.order_self`, `Instant.order_swap`: the order is reflexive and antisymmetric in its results.
* `Instant.addDays?_zero`: adding no day changes nothing.
* `Instant.shift?_eq`: the longest duration refuses only shifts that lead out of the range of instants.
-/

namespace FeatureQuery.Time

/-- The seconds of a day. -/
def secondsPerDay : Nat := 86400

/-- The nanoseconds of a second. -/
def nanosPerSecond : Nat := 1000000000

/-- The number of the first day that has instants. -/
def firstDay : Int := -96465292

/-- The number of the last day that has instants. -/
def lastDay : Int := 95026236

/-- The first day is the first of the year -262143. -/
theorem firstDay_eq : firstDay = Date.dayNumber ⟨-262143, 1, 1⟩ := by decide

/-- The last day is the last of the year 262142. -/
theorem lastDay_eq : lastDay = Date.dayNumber ⟨262142, 12, 31⟩ := by decide

/-- A point in time. -/
structure Instant where
  /-- Days from 1 January 1970. -/
  day : Int
  /-- The second of the day. -/
  second : Nat
  /-- Nanoseconds after the second; a leap second continues the count. -/
  nano : Nat
  day_mem : firstDay ≤ day ∧ day ≤ lastDay
  second_lt : second < secondsPerDay
  nano_lt : nano < 2 * nanosPerSecond
  leap_last : nano < nanosPerSecond ∨ second % 60 = 59
  deriving DecidableEq

namespace Instant

/-- The instant with the given parts, if there is one. -/
def ofParts? (day : Int) (second nano : Nat) : Option Instant :=
  if h : (firstDay ≤ day ∧ day ≤ lastDay) ∧ second < secondsPerDay ∧ nano < 2 * nanosPerSecond
      ∧ (nano < nanosPerSecond ∨ second % 60 = 59) then
    some ⟨day, second, nano, h.1, h.2.1, h.2.2.1, h.2.2.2⟩
  else
    none

/-- An instant is made up of its parts. -/
theorem ofParts?_self (t : Instant) : ofParts? t.day t.second t.nano = some t := by
  simp [ofParts?, t.day_mem, t.second_lt, t.nano_lt, t.leap_last]

/-- The instant with the given parts has these parts. -/
theorem ofParts?_eq_some_iff {t : Instant} {day : Int} {second nano : Nat} :
    ofParts? day second nano = some t ↔ t.day = day ∧ t.second = second ∧ t.nano = nano := by
  constructor
  · intro h
    rw [ofParts?] at h
    split at h
    · obtain rfl := Option.some.inj h
      exact ⟨rfl, rfl, rfl⟩
    · exact absurd h (by simp)
  · rintro ⟨rfl, rfl, rfl⟩
    exact ofParts?_self t

/-- Midnight at the start of a date. -/
def midnight? (date : Date) : Option Instant :=
  if date.isValid then ofParts? date.dayNumber 0 0 else none

/-- The order of time: by day, then second, then fraction. -/
def order (a b : Instant) : Ordering :=
  ((compare a.day b.day).then (compare a.second b.second)).then (compare a.nano b.nano)

/-- An instant is at the same time as itself. -/
theorem order_self (a : Instant) : a.order a = .eq := by
  simp [order]

/-- Two instants compare the other way round with the opposite result. -/
theorem order_swap (a b : Instant) : (a.order b).swap = b.order a := by
  simp only [order, Ordering.swap_then, Std.OrientedOrd.eq_swap (a := b.day),
    Std.OrientedOrd.eq_swap (a := b.second), Std.OrientedOrd.eq_swap (a := b.nano)]

/-- The instant a number of days later. A leap second exists on its own day only: going forward ends in
the second before it, going back in the second after it. -/
def addDays? (t : Instant) (days : Int) : Option Instant :=
  if t.nano < nanosPerSecond ∨ days = 0 then
    ofParts? (t.day + days) t.second t.nano
  else if 0 < days then
    ofParts? (t.day + days) t.second (t.nano - nanosPerSecond)
  else if t.second + 1 < secondsPerDay then
    ofParts? (t.day + days) (t.second + 1) (t.nano - nanosPerSecond)
  else
    ofParts? (t.day + days + 1) 0 (t.nano - nanosPerSecond)

/-- Adding no day changes nothing, also in a leap second. -/
theorem addDays?_zero (t : Instant) : t.addDays? 0 = some t := by
  simp [addDays?, ofParts?_self]

/-! ### Durations -/

/-- More days, forward or back, than lie between any two instants. The one more is for a leap second, which can
end in the next day. -/
def Beyond (days : Int) : Prop :=
  lastDay - firstDay + 1 < days.natAbs

/-- Nothing lies so many days later or earlier. -/
theorem addDays?_of_beyond {days : Int} (h : Beyond days) (t : Instant) : t.addDays? days = none := by
  have hday := t.day_mem
  have hout : ∀ day : Int, day = t.day + days ∨ day = t.day + days + 1 → ¬ (firstDay ≤ day ∧ day ≤ lastDay) := by
    simp only [Beyond, firstDay, lastDay] at h hday ⊢
    omega
  have hnone : ∀ (day : Int) (second nano : Nat), day = t.day + days ∨ day = t.day + days + 1 →
      ofParts? day second nano = none := fun day second nano h => dif_neg fun hparts => hout day h hparts.1
  rw [addDays?]
  split
  · exact hnone _ _ _ (Or.inl rfl)
  · split
    · exact hnone _ _ _ (Or.inl rfl)
    · split
      · exact hnone _ _ _ (Or.inl rfl)
      · exact hnone _ _ _ (Or.inr rfl)

/-- The seconds of the longest duration: a 64-bit integer still counts its milliseconds. -/
def longestSeconds : Nat := 9223372036854775

/-- These are the seconds of the largest number of milliseconds. -/
theorem longestSeconds_eq : longestSeconds = Int64.maxValue.toInt.toNat / 1000 := by decide

/-- The days of a duration, if one lasts so many days. -/
def wholeDays? (days : Int64) : Option Int :=
  if days.toInt.natAbs * secondsPerDay ≤ longestSeconds then some days.toInt else none

/-- The instant a duration of whole days later or earlier, if a duration lasts so many days. -/
def shift? (t : Instant) (later : Bool) (days : Int64) : Option Instant := do
  let n ← wholeDays? days
  t.addDays? (if later then n else -n)

/-- Where no duration lasts so many days, they lead out of the range of instants. -/
theorem beyond_of_wholeDays?_none {days : Int64} (h : wholeDays? days = none) : Beyond days.toInt := by
  rw [wholeDays?] at h
  split at h
  · cases h
  · next hlong =>
      simp only [secondsPerDay, longestSeconds] at hlong
      simp only [Beyond, firstDay, lastDay]
      omega

/-- The longest duration does not bound shifts: it refuses only those that lead out of the range of instants. -/
theorem shift?_eq (t : Instant) (later : Bool) (days : Int64) :
    t.shift? later days = t.addDays? (if later then days.toInt else -days.toInt) := by
  rw [shift?]
  cases h : wholeDays? days with
  | none =>
    have hbeyond : Beyond (if later then days.toInt else -days.toInt) := by
      have := beyond_of_wholeDays?_none h
      cases later with
      | true => exact this
      | false => simpa [Beyond] using this
    exact (addDays?_of_beyond hbeyond t).symm
  | some n =>
    rw [wholeDays?, Option.ite_none_right_eq_some, Option.some.injEq] at h
    rw [h.2]
    rfl

/-! ### Zones -/

/-- The instant that shows the same clock in a zone `minutes` east of Greenwich. -/
def ofZone? (day : Int) (second nano : Nat) (minutes : Int) : Option Instant :=
  let total := day * secondsPerDay + second - minutes * 60
  ofParts? (total / secondsPerDay) (total % secondsPerDay).toNat nano

end Instant

end FeatureQuery.Time
