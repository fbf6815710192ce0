import FeatureQuery.Proofs.Text.Collapsing
import FeatureQuery.Proofs.Text.Digits
import FeatureQuery.Proofs.Time.Calendar
import FeatureQuery.Time.Rfc3339

/-!
# Reading instants back

The text of an instant is read as the instant, for every instant there is: in years with a sign, with fractions of
any length, and in leap seconds. Each field is written as wide as its reader takes it, and what is written after a
field of no fixed width, a year with a sign or a fraction, is no digit, so every reader stops where its field ends.

## Main results

* `readDigits?_padded`, `readDigits?_padded_open`: readers of digits stop where the digits end.
* `readYear?_yearText`, `readField?_padded`, `readFraction?_fraction`: the parts are read back.
* `Instant.read?_zuluText`: so is the instant.
-/

namespace FeatureQuery.Time

open FeatureQuery.Number (digitsValue tenPow)
open FeatureQuery.Text (digitsValue_toDigits isDigit_of_mem_toDigits not_isBlank_of_isDigit takeWhile_run trimStart
  trimStart_eq_self)

/-! ### Digits -/

/-- A number that is filled up has digits only. -/
theorem isDigit_of_mem_padded {width n : Nat} {c : Char} (h : c ∈ padded width n) : c.isDigit = true := by
  rcases List.mem_append.1 h with hzero | hdigit
  · rw [(List.mem_replicate.1 hzero).2]
    decide
  · exact isDigit_of_mem_toDigits hdigit

/-- Zeros before a number do not change its value. -/
theorem digitsValue_padded (width n : Nat) : digitsValue (padded width n) = n :=
  digitsValue_toDigits _ n

theorem padded_ne_nil (width n : Nat) : padded width n ≠ [] :=
  List.append_ne_nil_of_right_ne_nil _ Nat.toDigits_ne_nil

/-- A number that fits into the width is filled up to it. -/
theorem length_padded {width n : Nat} (hwidth : 0 < width) (h : n < tenPow width) :
    (padded width n).length = width := by
  have hdigits := (Nat.length_toDigits_le_iff (by decide) hwidth).2 h
  rw [padded, List.length_append, List.length_replicate]
  omega

/-- The text of a number starts with a digit. -/
theorem exists_padded_eq_cons (width n : Nat) : ∃ c cs, padded width n = c :: cs ∧ c.isDigit = true := by
  obtain ⟨c, cs, hcs⟩ := List.exists_cons_of_ne_nil (padded_ne_nil width n)
  exact ⟨c, cs, hcs, isDigit_of_mem_padded (hcs ▸ List.mem_cons_self)⟩

/-- A number that fills its width is read back, whatever follows. -/
theorem readDigits?_padded {width n : Nat} (hwidth : 0 < width) (h : n < tenPow width) (rest : List Char) :
    readDigits? (some width) (padded width n ++ rest) = some (n, rest) := by
  have hlength := length_padded hwidth h
  have htake : (padded width n ++ rest).take width = padded width n := List.take_left' hlength
  have hdrop : (padded width n ++ rest).drop width = rest := List.drop_left' hlength
  have hdigits : (padded width n).takeWhile Char.isDigit = padded width n :=
    List.takeWhile_eq_self_iff.2 fun _ => isDigit_of_mem_padded
  simp [readDigits?, htake, hdigits, padded_ne_nil, digitsValue_padded, hlength, hdrop]

/-- A number of no fixed width is read back before anything but a digit. -/
theorem readDigits?_padded_open (width n : Nat) {rest : List Char}
    (hrest : ∀ c, rest.head? = some c → c.isDigit = false) :
    readDigits? none (padded width n ++ rest) = some (n, rest) := by
  have hdigits : (padded width n ++ rest).takeWhile Char.isDigit = padded width n :=
    takeWhile_run (fun _ => isDigit_of_mem_padded) hrest
  simp [readDigits?, hdigits, padded_ne_nil, digitsValue_padded]

/-- There are no blanks to be taken off before digits. -/
theorem trimStart_padded (width n : Nat) (rest : List Char) :
    trimStart (padded width n ++ rest) = padded width n ++ rest := by
  obtain ⟨c, cs, hcs, hdigit⟩ := exists_padded_eq_cons width n
  rw [hcs, List.cons_append]
  exact trimStart_eq_self (not_isBlank_of_isDigit hdigit)

/-! ### Fields -/

/-- A number of two digits is read back. -/
theorem readField?_padded {n : Nat} (h : n < 100) (rest : List Char) :
    readField? (padded 2 n ++ rest) = some (n, rest) := by
  rw [readField?, trimStart_padded, readDigits?_padded (by decide) h]

/-- A year of four digits is read back. -/
theorem readYear?_padded {year : Nat} (h : year < 10000) (rest : List Char) :
    readYear? (padded 4 year ++ rest) = some ((year : Int), rest) := by
  have hread : readDigits? (some 4) (padded 4 year ++ rest) = some (year, rest) :=
    readDigits?_padded (by decide) h rest
  have hhead : ∀ d ds, padded 4 year ++ rest = d :: ds → d.isDigit = true := by
    intro d ds heq
    obtain ⟨c, cs, hcs, hdigit⟩ := exists_padded_eq_cons 4 year
    rw [hcs] at heq
    exact (List.cons.inj heq).1 ▸ hdigit
  rw [readYear?, trimStart_padded]
  split
  · next heq => exact absurd (hhead _ _ heq) (by decide)
  · next heq => exact absurd (hhead _ _ heq) (by decide)
  · rw [hread, Option.map_some]

/-- A year is read back. -/
theorem readYear?_yearText (year : Int) (rest : List Char) :
    readYear? (yearText year ++ '-' :: rest) = some (year, '-' :: rest) := by
  have hrest : ∀ c, ('-' :: rest).head? = some c → c.isDigit = false := fun c hc => Option.some.inj hc ▸ rfl
  have hsigned := readDigits?_padded_open 4 year.natAbs hrest
  rw [yearText]
  split
  · next hplain => rw [readYear?_padded (by omega), Int.toNat_of_nonneg hplain.1]
  · by_cases hneg : year < 0
    · rw [if_pos hneg, List.cons_append, readYear?, trimStart_eq_self (by decide)]
      simp only [hsigned, Option.map_some]
      rw [show -(year.natAbs : Int) = year by omega]
    · rw [if_neg hneg, List.cons_append, readYear?, trimStart_eq_self (by decide)]
      simp only [hsigned, Option.map_some]
      rw [show (year.natAbs : Int) = year by omega]

section Fraction

variable {rest : List Char} (hrest : ∀ c, rest.head? = some c → c.isDigit = false)

include hrest

/-- Digits after a point are read as parts of a second, up to nine of them. -/
theorem readFraction?_padded {places n : Nat} (hplaces : 0 < places ∧ places ≤ 9) (h : n < tenPow places) :
    readFraction? ('.' :: (padded places n ++ rest)) = some (n * tenPow (9 - places), rest) := by
  have hlength := length_padded hplaces.1 h
  have hall : (padded places n ++ rest).takeWhile Char.isDigit = padded places n :=
    takeWhile_run (fun _ => isDigit_of_mem_padded) hrest
  have hcounted : (padded places n).take 9 = padded places n := List.take_of_length_le (by omega)
  simp [readFraction?, hall, hcounted, padded_ne_nil, digitsValue_padded, hlength]

/-- A fraction of a second is read back. -/
theorem readFraction?_fraction (hpoint : rest.head? ≠ some '.') {nano : Nat} (h : nano < nanosPerSecond) :
    readFraction? (fraction nano ++ rest) = some (nano, rest) := by
  have hmillis : nano / 1000000 < tenPow 3 := Nat.div_lt_of_lt_mul h
  have hmicros : nano / 1000 < tenPow 6 := Nat.div_lt_of_lt_mul h
  rw [fraction]
  split
  · next hzero =>
      rw [List.nil_append, hzero, readFraction?.eq_def]
      split
      · exact absurd rfl hpoint
      · rfl
  split
  · next hdvd =>
      rw [List.cons_append, readFraction?_padded hrest (by decide) hmillis, show tenPow (9 - 3) = 1000000 from rfl,
        Nat.div_mul_cancel (Nat.dvd_of_mod_eq_zero hdvd)]
  split
  · next hdvd =>
      rw [List.cons_append, readFraction?_padded hrest (by decide) hmicros, show tenPow (9 - 6) = 1000 from rfl,
        Nat.div_mul_cancel (Nat.dvd_of_mod_eq_zero hdvd)]
  · rw [List.cons_append, readFraction?_padded hrest (by decide) h, show tenPow (9 - 9) = 1 from rfl, Nat.mul_one]

end Fraction

/-! ### Instants -/

/-- The date of an instant is read as its day. -/
theorem midnight?_ofDayNumber {day : Int} (h : firstDay ≤ day ∧ day ≤ lastDay) :
    ∃ t, Instant.midnight? (Date.ofDayNumber day) = some t ∧ t.day = day := by
  refine ⟨⟨day, 0, 0, h, by decide, by decide, by decide⟩, ?_, rfl⟩
  rw [Instant.midnight?, if_pos (Date.isValid_ofDayNumber day), Date.dayNumber_ofDayNumber]
  exact Instant.ofParts?_self ⟨day, 0, 0, h, by decide, by decide, by decide⟩

/-- A second is read back with its fraction, also if it is a leap second. -/
theorem leapSecond?_parts (t : Instant) :
    leapSecond? (t.second % 60 + t.nano / nanosPerSecond) (t.nano % nanosPerSecond) = some (t.second % 60, t.nano) := by
  have hnano := t.nano_lt
  have hleap := t.leap_last
  simp only [nanosPerSecond] at hnano hleap ⊢
  rw [leapSecond?]
  by_cases hplain : t.nano < 1000000000
  · have hwhole : t.nano / 1000000000 = 0 := by omega
    rw [hwhole, if_pos (by omega), Nat.add_zero, Nat.mod_eq_of_lt hplain]
  · have hlast : t.second % 60 = 59 := by omega
    have hwhole : t.nano / 1000000000 = 1 := by omega
    have hnanos : nanosPerSecond + t.nano % 1000000000 = t.nano := by
      simp only [nanosPerSecond]
      omega
    rw [hlast, hwhole, if_neg (by decide), if_pos rfl, hnanos]

/-- The parts of a clock that shows universal time make up its instant. -/
theorem ofZone?_parts (t : Instant) :
    Instant.ofZone? t.day (3600 * (t.second / 3600) + 60 * (t.second / 60 % 60) + t.second % 60) t.nano 0 = some t := by
  have hsecond := t.second_lt
  simp only [secondsPerDay] at hsecond
  have hclock : 3600 * (t.second / 3600) + 60 * (t.second / 60 % 60) + t.second % 60 = t.second := by omega
  rw [hclock]
  simp only [Instant.ofZone?, secondsPerDay]
  have hday : (t.day * (86400 : Nat) + t.second - 0 * 60) / (86400 : Nat) = t.day := by omega
  have hclock : ((t.day * (86400 : Nat) + t.second - 0 * 60) % (86400 : Nat)).toNat = t.second := by omega
  rw [hday, hclock, Instant.ofParts?_self]

/-- The numbers of a date have at most two digits. -/
theorem Date.lt_of_isValid {date : Date} (h : date.isValid = true) : date.month < 100 ∧ date.day < 100 := by
  obtain ⟨-, hmonth, -, hday⟩ := isValid_iff.1 h
  have hdays := daysInMonth_le date.year date.month
  exact ⟨by omega, by omega⟩

/-- A mark is found where it stands. -/
theorem readMark?_cons {mark : Char} (hmark : Text.isBlank mark = false) (rest : List Char) :
    readMark? mark (mark :: rest) = some rest := by
  rw [readMark?, trimStart_eq_self hmark]
  exact if_pos rfl

/-- **Instants.** The text of an instant is read as the instant. -/
theorem Instant.read?_zuluText (t : Instant) : read? t.zuluText.toList = some t := by
  obtain ⟨midnight, hmidnight, hday⟩ := midnight?_ofDayNumber t.day_mem
  obtain ⟨hmonth, hdayOfMonth⟩ := Date.lt_of_isValid (Date.isValid_ofDayNumber t.day)
  have hsecond : t.second < 86400 := t.second_lt
  have hnano : t.nano < 2 * 1000000000 := t.nano_lt
  have hhyphen := readMark?_cons (show Text.isBlank '-' = false by decide)
  have hcolon := readMark?_cons (show Text.isBlank ':' = false by decide)
  have hseparator : ∀ rest, readSeparator? ('T' :: rest) = some rest := fun _ => rfl
  have hhours : t.second / 3600 < 24 := by omega
  have hminutes : t.second / 60 % 60 < 60 := by omega
  have hseconds : t.second % 60 + t.nano / nanosPerSecond < 100 := by
    simp only [nanosPerSecond]
    omega
  have hend : ∀ c, ['Z'].head? = some c → c.isDigit = false := fun c hc => Option.some.inj hc ▸ rfl
  have hfraction :
      readFraction? (fraction (t.nano % nanosPerSecond) ++ ['Z']) = some (t.nano % nanosPerSecond, ['Z']) :=
    readFraction?_fraction hend (by decide) (Nat.mod_lt _ (by decide))
  have hzone : readZone? (trimStart ['Z']) = some (0, []) := by decide
  rw [zuluText, String.toList_ofList, localText]
  simp only [List.append_assoc, List.cons_append, List.nil_append]
  -- Every part is read from the start of what the part before it leaves.
  rw [read?]
  refine Option.bind_eq_some_iff.2 ⟨_, readYear?_yearText _ _, ?_⟩
  refine Option.bind_eq_some_iff.2 ⟨_, hhyphen _, ?_⟩
  refine Option.bind_eq_some_iff.2 ⟨_, readField?_padded hmonth _, ?_⟩
  refine Option.bind_eq_some_iff.2 ⟨_, hhyphen _, ?_⟩
  refine Option.bind_eq_some_iff.2 ⟨_, readField?_padded hdayOfMonth _, ?_⟩
  refine Option.bind_eq_some_iff.2 ⟨_, hseparator _, ?_⟩
  refine Option.bind_eq_some_iff.2 ⟨_, readField?_padded (Nat.lt_trans hhours (by decide)) _, ?_⟩
  refine Option.bind_eq_some_iff.2 ⟨_, hcolon _, ?_⟩
  refine Option.bind_eq_some_iff.2 ⟨_, readField?_padded (Nat.lt_trans hminutes (by decide)) _, ?_⟩
  refine Option.bind_eq_some_iff.2 ⟨_, hcolon _, ?_⟩
  refine Option.bind_eq_some_iff.2 ⟨_, readField?_padded hseconds _, ?_⟩
  refine Option.bind_eq_some_iff.2 ⟨_, hfraction, ?_⟩
  refine Option.bind_eq_some_iff.2 ⟨_, hzone, ?_⟩
  refine Option.bind_eq_some_iff.2 ⟨_, hmidnight, ?_⟩
  refine Option.bind_eq_some_iff.2 ⟨_, leapSecond?_parts t, ?_⟩
  exact (if_pos ⟨rfl, hhours, hminutes⟩).trans (hday ▸ ofZone?_parts t)

end FeatureQuery.Time
