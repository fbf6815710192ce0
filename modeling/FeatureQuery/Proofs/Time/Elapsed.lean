import FeatureQuery.Time.Instant

/-!
# Instants as numbers of nanoseconds

Outside leap seconds an instant stands at a number of nanoseconds from 1 January 1970 on, where every day counts
the same. The instants lie at all numbers of nanoseconds from the start of the first day to the end of the last
one, and some days later is so many nanoseconds later.

## Main results

* `Instant.inRange_iff`: the numbers of nanoseconds in the range stand for instants, and the others for none.
* `Instant.addDays?_eq_some_iff`: what a number of days later is.
-/

namespace FeatureQuery.Time

/-- The nanoseconds of a day. -/
def nanosPerDay : Int := secondsPerDay * nanosPerSecond

namespace Instant

/-- An instant outside leap seconds. -/
def Regular (t : Instant) : Prop :=
  t.nano < nanosPerSecond

/-- The nanoseconds from 1 January 1970 to an instant, without leap seconds. -/
def sinceEpoch (t : Instant) : Int :=
  (t.day * secondsPerDay + t.second) * nanosPerSecond + t.nano

/-- The numbers of nanoseconds from the start of the first day to the end of the last one. -/
def InRange (nanos : Int) : Prop :=
  firstDay * nanosPerDay ≤ nanos ∧ nanos < (lastDay + 1) * nanosPerDay

instance (t : Instant) : Decidable t.Regular :=
  inferInstanceAs (Decidable (_ < _))

instance (nanos : Int) : Decidable (InRange nanos) :=
  inferInstanceAs (Decidable (_ ∧ _))

variable {t u : Instant}

/-- **The range of instants.** There is an instant outside leap seconds at each number of nanoseconds in the range,
and at no other. -/
theorem inRange_iff {nanos : Int} : InRange nanos ↔ ∃ t : Instant, t.Regular ∧ t.sinceEpoch = nanos := by
  constructor
  · rintro ⟨hlow, hhigh⟩
    simp only [nanosPerDay, secondsPerDay, nanosPerSecond, firstDay, lastDay] at hlow hhigh
    have hsecond : (nanos / 1000000000 % 86400).toNat < 86400 := by omega
    have hnano : (nanos % 1000000000).toNat < 1000000000 := by omega
    refine ⟨⟨nanos / 1000000000 / 86400, (nanos / 1000000000 % 86400).toNat, (nanos % 1000000000).toNat, ?_,
      hsecond, Nat.lt_of_lt_of_le hnano (by decide), Or.inl hnano⟩, hnano, ?_⟩
    · simp only [firstDay, lastDay]
      omega
    · simp only [sinceEpoch, secondsPerDay, nanosPerSecond]
      omega
  · rintro ⟨t, hregular, rfl⟩
    obtain ⟨hfirst, hlast⟩ := t.day_mem
    have hsecond := t.second_lt
    simp only [Regular, secondsPerDay, nanosPerSecond, firstDay, lastDay] at hregular hsecond hfirst hlast
    simp only [InRange, sinceEpoch, nanosPerDay, secondsPerDay, nanosPerSecond, firstDay, lastDay]
    omega

/-- **Days later.** Some days later than an instant outside leap seconds is the instant so many nanoseconds later. -/
theorem addDays?_eq_some_iff (ht : t.Regular) {days : Int} :
    t.addDays? days = some u ↔ u.Regular ∧ u.sinceEpoch = t.sinceEpoch + days * nanosPerDay := by
  have htsecond := t.second_lt
  have husecond := u.second_lt
  rw [addDays?, if_pos (Or.inl (show t.nano < nanosPerSecond from ht)), ofParts?_eq_some_iff]
  simp only [Regular, sinceEpoch, nanosPerDay, secondsPerDay, nanosPerSecond] at ht htsecond husecond ⊢
  omega

/-- There is no instant some days later exactly if it would be out of the range. -/
theorem addDays?_eq_none_iff (ht : t.Regular) {days : Int} :
    t.addDays? days = none ↔ ¬ InRange (t.sinceEpoch + days * nanosPerDay) := by
  rw [inRange_iff, Option.eq_none_iff_forall_ne_some, not_exists]
  exact forall_congr' fun u => not_congr (addDays?_eq_some_iff ht)

end Instant

end FeatureQuery.Time
