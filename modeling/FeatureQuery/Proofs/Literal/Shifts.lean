import FeatureQuery.Proofs.Literal.Collapsing
import FeatureQuery.Proofs.Number.Decimal
import FeatureQuery.Proofs.Time.Elapsed

/-!
# Shifted dates and milestones

A relative literal with a shift denotes the instant so many days or weeks before or after the present, or the
milestone so many before or after the stable one. Amounts may have any number of digits. The shift is exact
wherever its result exists, and the literal is a text otherwise: amounts neither wrap around nor stop at a bound.

On its way an amount is a 64-bit integer, and so are the days of that many weeks, which make up a duration. None of
these limits refuses a date that exists, since 64 bits and a duration reach further than from the first instant to the
last one. They are felt by milestones only, whose amount must be a 64-bit integer even where the sum is one anyway.

## Main results

* `scalar_of_written`: the literal of an item that is written like a relative literal.
* `beyond_of_daysOf?_none`: an amount of days or weeks is refused only if it leads out of the range of instants.
* `scalar_now`, `scalar_stable`, `scalar_shift`: the literals of shifted dates and milestones.
-/

namespace FeatureQuery.Literal

open FeatureQuery.Number (digitsValue int64? int64?_eq_none_iff int64?_eq_some_iff readNat?)
open FeatureQuery.Text (isDecimalDigit isDecimalDigit_ascii trim)
open FeatureQuery.Time (Instant firstDay lastDay nanosPerDay)

/-! ### Items that are written like relative literals -/

/-- A relative literal has no blanks or quotes to be taken off. -/
theorem unquote_trim_of_readRelative? {cs : List Char} {relative : Relative}
    (h : readRelative? cs = some relative) : unquote (trim cs) = cs := by
  have hplain := not_isBlank_of_readRelative? h
  have htight : Text.Tight cs :=
    ⟨fun c hc => hplain c (List.mem_of_head? hc), fun c hc => hplain c (List.mem_of_getLast? hc)⟩
  rw [Text.trim_of_tight htight]
  exact unquote_of_head (ends_of_readRelative? h).1

/-- An item that is written like a relative literal is that or, if it denotes nothing, a text. -/
theorem scalar_of_written {cs : List Char} {relative : Relative} (h : relative.Written cs) (context : Context) :
    scalar context cs = (relative.toLiteral? context).getD (.text (String.ofList cs)) := by
  have hread := readRelative?_eq_some_iff.2 h
  rw [scalar, unquote_trim_of_readRelative? hread, hread]

/-! ### Shifts -/

/-- The sign of a shift. -/
def signOf (forward : Bool) : Char :=
  if forward then '+' else '-'

/-- A word with a shift after it. -/
def shiftText (word : String) (forward : Bool) (amount unit : List Char) : List Char :=
  word.toList ++ signOf forward :: (amount ++ unit)

/-- The integers of 64 bits. -/
def Fits (n : Int) : Prop :=
  -2 ^ 63 ≤ n ∧ n < 2 ^ 63

instance (n : Int) : Decidable (Fits n) :=
  inferInstanceAs (Decidable (_ ∧ _))

/-- There is a 64-bit integer exactly for the integers that fit. -/
theorem exists_int64?_iff {n : Int} : (∃ x, int64? n = some x) ↔ Fits n := by
  rw [← Option.ne_none_iff_exists', Ne, int64?_eq_none_iff, Fits]
  omega

section Shifts

variable {context : Context} {amount : List Char} {forward : Bool}

/-- A sign with digits after it is a shift. -/
theorem isShift_signOf (hne : amount ≠ []) (hdigits : ∀ c ∈ amount, c.isDigit = true) (forward : Bool) :
    IsShift (signOf forward) forward amount where
  sign := by cases forward <;> rfl
  ne_nil := hne
  digits c hc := by
    have hdigit := hdigits c hc
    rw [isDecimalDigit_ascii, hdigit]
    rw [Char.isDigit, Bool.and_eq_true, decide_eq_true_eq, decide_eq_true_eq] at hdigit
    exact Nat.lt_of_le_of_lt hdigit.2 (by decide)

/-- Digits are read as the number that they stand for. -/
theorem readNat?_digits (hne : amount ≠ []) (hdigits : ∀ c ∈ amount, c.isDigit = true) :
    readNat? amount = some (digitsValue amount) :=
  Number.readNat?_eq_some_iff.2 ⟨hne, hdigits, rfl⟩

/-- The days of an amount that is not refused. -/
theorem toInt_of_daysOf? {n : Nat} {days : Int64} {weeks : Bool} (hread : readNat? amount = some n)
    (h : daysOf? amount weeks = some days) : days.toInt = ((if weeks then 7 else 1) * n : Nat) := by
  simp only [daysOf?, hread, Option.bind_eq_bind, Option.bind_some, Option.bind_eq_some_iff,
    int64?_eq_some_iff] at h
  obtain ⟨number, hnumber, h⟩ := h
  cases weeks with
  | true =>
      rw [if_pos rfl, int64?_eq_some_iff, hnumber] at h
      simpa using h
  | false =>
      obtain rfl : number = days := Option.some.inj h
      simpa using hnumber

/-- Days that 64 bits do not hold lead out of the range of instants. -/
theorem beyond_of_int64?_none {n days : Int} (h : int64? n = none) (hle : n.natAbs ≤ days.natAbs) :
    Instant.Beyond days := by
  rw [int64?_eq_none_iff] at h
  simp only [Instant.Beyond, firstDay, lastDay]
  omega

/-- A sign does not change how large an amount is. -/
theorem natAbs_signed (forward : Bool) (n : Nat) : (signed forward n).natAbs = n := by
  cases forward with
  | true => exact Int.natAbs_natCast n
  | false => exact (Int.natAbs_neg n).trans (Int.natAbs_natCast n)

/-- **Refused amounts.** An amount is refused, because of its own size or that of its days, only if they lead out
of the range of instants. -/
theorem beyond_of_daysOf?_none {n : Nat} {weeks : Bool} (hread : readNat? amount = some n)
    (h : daysOf? amount weeks = none) (forward : Bool) :
    Instant.Beyond (signed forward ((if weeks then 7 else 1) * n)) := by
  simp only [daysOf?, hread, Option.bind_eq_bind, Option.bind_some] at h
  cases hnumber : int64? n with
  | none =>
      refine beyond_of_int64?_none hnumber ?_
      rw [natAbs_signed, Int.natAbs_natCast]
      exact Nat.le_mul_of_pos_left n (by cases weeks <;> decide)
  | some number =>
      rw [hnumber, Option.bind_some] at h
      rw [int64?_eq_some_iff] at hnumber
      cases weeks with
      | true =>
          rw [if_pos rfl, hnumber] at h
          refine beyond_of_int64?_none h ?_
          rw [natAbs_signed, if_pos rfl]
          omega
      | false => cases h

/-- What a shift of the present denotes. -/
theorem toLiteral?_now (hne : amount ≠ []) (hdigits : ∀ c ∈ amount, c.isDigit = true) (weeks : Bool) :
    (Relative.now forward amount weeks).toLiteral? context
      = (context.now.addDays? (signed forward ((if weeks then 7 else 1) * digitsValue amount))).map .instant := by
  have hread := readNat?_digits hne hdigits
  rw [Relative.toLiteral?]
  cases hdays : daysOf? amount weeks with
  | none =>
      rw [Instant.addDays?_of_beyond (beyond_of_daysOf?_none hread hdays forward)]
      rfl
  | some days =>
      rw [Option.bind_eq_bind, Option.bind_some, Instant.shift?_eq, toInt_of_daysOf? hread hdays,
        Option.map_eq_bind]
      rfl

/-- What a shift of the stable milestone denotes. -/
theorem toLiteral?_stable (hne : amount ≠ []) (hdigits : ∀ c ∈ amount, c.isDigit = true) :
    (Relative.stable forward amount).toLiteral? context
      = (int64? (digitsValue amount)).bind fun _ =>
        (int64? (context.stableMilestone.toInt + signed forward (digitsValue amount))).map .int := by
  rw [Relative.toLiteral?, readNat?_digits hne hdigits]
  simp [Option.map_eq_bind]

/-- Some days or weeks from now is the instant so many nanoseconds from now, if there is one. -/
theorem scalar_now (hnow : context.now.Regular) (hne : amount ≠ []) (hdigits : ∀ c ∈ amount, c.isDigit = true)
    (forward weeks : Bool) :
    let item := shiftText "now" forward amount [if weeks then 'w' else 'd']
    let target := context.now.sinceEpoch
      + signed forward ((if weeks then 7 else 1) * digitsValue amount) * nanosPerDay
    (Instant.InRange target →
        ∃ t : Instant, t.Regular ∧ t.sinceEpoch = target ∧ scalar context item = .instant t)
      ∧ (¬ Instant.InRange target → scalar context item = .text (String.ofList item)) := by
  have hshift := isShift_signOf hne hdigits forward
  have hwritten : (Relative.now forward amount weeks).Written
      (shiftText "now" forward amount [if weeks then 'w' else 'd']) := by
    cases weeks with
    | true => exact .weeks hshift
    | false => exact .days hshift
  have hscalar := scalar_of_written hwritten context
  rw [toLiteral?_now hne hdigits] at hscalar
  constructor
  · intro hrange
    obtain ⟨t, hregular, ht⟩ := Instant.inRange_iff.1 hrange
    refine ⟨t, hregular, ht, ?_⟩
    rw [hscalar, (Instant.addDays?_eq_some_iff hnow).2 ⟨hregular, ht⟩]
    rfl
  · intro hrange
    rw [hscalar, (Instant.addDays?_eq_none_iff hnow).2 hrange]
    rfl

/-- Some milestones from the stable one is the sum or difference, if this and the amount are 64-bit integers. -/
theorem scalar_stable (hne : amount ≠ []) (hdigits : ∀ c ∈ amount, c.isDigit = true) (forward : Bool) :
    let item := shiftText "current_stable" forward amount []
    let target := context.stableMilestone.toInt + signed forward (digitsValue amount)
    (Fits (digitsValue amount) ∧ Fits target →
        ∃ milestone : Int64, milestone.toInt = target ∧ scalar context item = .int milestone)
      ∧ (¬ (Fits (digitsValue amount) ∧ Fits target) → scalar context item = .text (String.ofList item)) := by
  have hwritten : (Relative.stable forward amount).Written (shiftText "current_stable" forward amount []) := by
    rw [shiftText, List.append_nil]
    exact .milestones (isShift_signOf hne hdigits forward)
  have hscalar := scalar_of_written hwritten context
  rw [toLiteral?_stable hne hdigits] at hscalar
  constructor
  · rintro ⟨hamount, htarget⟩
    obtain ⟨n, hn⟩ := exists_int64?_iff.2 hamount
    obtain ⟨milestone, hmilestone⟩ := exists_int64?_iff.2 htarget
    refine ⟨milestone, int64?_eq_some_iff.1 hmilestone, ?_⟩
    rw [hscalar, hn, hmilestone]
    rfl
  · intro hnot
    rw [hscalar]
    cases hn : int64? (digitsValue amount) with
    | none => rfl
    | some n =>
        cases hmilestone : int64? (context.stableMilestone.toInt + signed forward (digitsValue amount)) with
        | none => rfl
        | some milestone =>
            exact absurd ⟨exists_int64?_iff.1 ⟨n, hn⟩, exists_int64?_iff.1 ⟨milestone, hmilestone⟩⟩ hnot

/-- **Shifts are exact or stay texts.** Let the present be outside leap seconds. Some days or weeks from now is the
instant so many nanoseconds from now if that is in the range of instants, and a text otherwise. Some milestones
from the stable one is the sum or difference, if this and the amount are 64-bit integers, and a text otherwise. -/
theorem scalar_shift (hnow : context.now.Regular) (hne : amount ≠ []) (hdigits : ∀ c ∈ amount, c.isDigit = true)
    (forward : Bool) :
    (∀ weeks : Bool,
      let item := shiftText "now" forward amount [if weeks then 'w' else 'd']
      let target := context.now.sinceEpoch
        + signed forward ((if weeks then 7 else 1) * digitsValue amount) * nanosPerDay
      (Instant.InRange target →
          ∃ t : Instant, t.Regular ∧ t.sinceEpoch = target ∧ scalar context item = .instant t)
        ∧ (¬ Instant.InRange target → scalar context item = .text (String.ofList item)))
      ∧ (let item := shiftText "current_stable" forward amount []
        let target := context.stableMilestone.toInt + signed forward (digitsValue amount)
        (Fits (digitsValue amount) ∧ Fits target →
            ∃ milestone : Int64, milestone.toInt = target ∧ scalar context item = .int milestone)
          ∧ (¬ (Fits (digitsValue amount) ∧ Fits target) →
            scalar context item = .text (String.ofList item))) :=
  ⟨fun weeks => scalar_now hnow hne hdigits forward weeks, scalar_stable hne hdigits forward⟩

end Shifts

/-- At the start of the last day, with a stable milestone below zero. -/
def onLastDay : Context :=
  ⟨(Instant.ofParts? Time.lastDay 0 0).get (by decide), -1, none⟩

/-- From the last day it is so many days back to the first one. One more day back there is no instant. The least
milestone is found below the stable one, but the greatest is not found above it, since the amount is too large. -/
theorem scalar_shift_on_last_day :
    onLastDay.now.Regular
      ∧ (∃ t : Instant, t.Regular ∧ t.sinceEpoch = Time.firstDay * nanosPerDay
        ∧ scalar onLastDay "now-191491528d".toList = .instant t)
      ∧ scalar onLastDay "now-191491529d".toList = .text "now-191491529d"
      ∧ (∃ milestone : Int64, milestone.toInt = -2 ^ 63
        ∧ scalar onLastDay "current_stable-9223372036854775807".toList = .int milestone)
      ∧ scalar onLastDay "current_stable+9223372036854775808".toList
        = .text "current_stable+9223372036854775808" := by
  have hnow : onLastDay.now.Regular := by decide
  have hwithin := (@scalar_shift onLastDay "191491528".toList hnow (by decide)
    (List.all_eq_true.1 (by decide)) false).1 false
  have hbeyond := (@scalar_shift onLastDay "191491529".toList hnow (by decide)
    (List.all_eq_true.1 (by decide)) false).1 false
  have hleast := (@scalar_shift onLastDay "9223372036854775807".toList hnow (by decide)
    (List.all_eq_true.1 (by decide)) false).2
  have hlarge := (@scalar_shift onLastDay "9223372036854775808".toList hnow (by decide)
    (List.all_eq_true.1 (by decide)) true).2
  dsimp only at hwithin hbeyond hleast hlarge
  obtain ⟨t, hregular, ht, hfirst⟩ := hwithin.1 (by decide +kernel)
  obtain ⟨milestone, hmilestone, hint⟩ := hleast.1 (by decide +kernel)
  refine ⟨hnow, ⟨t, hregular, ?_, hfirst⟩, hbeyond.2 (by decide +kernel), ⟨milestone, ?_, hint⟩,
    hlarge.2 (by decide +kernel)⟩
  · rw [ht]
    decide +kernel
  · rw [hmilestone]
    decide +kernel

end FeatureQuery.Literal
