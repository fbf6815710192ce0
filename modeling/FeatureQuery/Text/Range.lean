/-!
# Character classes given by ranges

A class of characters is a list of inclusive ranges of code points, as the tables of the Unicode
standard give it.

## Main results

* `Ranges.contains_iff`: a character is in the class when some range holds its code point.
* `Ranges.contains_ascii`: a class is decided on ASCII characters by its first ranges alone.
-/

namespace FeatureQuery.Text

/-- Inclusive ranges of code points. -/
abbrev Ranges := List (Nat × Nat)

/-- The character's code point lies in one of the ranges. -/
def Ranges.contains (ranges : Ranges) (c : Char) : Bool :=
  ranges.any fun range => range.1 ≤ c.toNat && c.toNat ≤ range.2

/-- A character is contained if its code point is in one of the ranges. -/
theorem Ranges.contains_iff {ranges : Ranges} {c : Char} :
    ranges.contains c = true ↔ ∃ range ∈ ranges, range.1 ≤ c.toNat ∧ c.toNat ≤ range.2 := by
  simp [Ranges.contains]

/-- A character below all of the higher ranges is looked for in the lower ones. -/
theorem Ranges.contains_append_of_lt {low high : Ranges} {c : Char}
    (h : ∀ range ∈ high, c.toNat < range.1) : Ranges.contains (low ++ high) c = low.contains c := by
  have outside : Ranges.contains high c = false := by
    rw [← Bool.not_eq_true, contains_iff]
    rintro ⟨range, mem, le, -⟩
    exact Nat.not_lt_of_le le (h range mem)
  rw [contains, List.any_append, ← contains, ← contains, outside, Bool.or_false]

/-- What holds of each of the 128 ASCII characters holds of a character below 128. -/
theorem forall_ascii {P : Char → Prop} (h : ∀ n : Fin 128, P (Char.ofNat n)) {c : Char}
    (lt : c.toNat < 128) : P c := by
  simpa using h ⟨c.toNat, lt⟩

/-- On ASCII characters, a class is decided by the ranges before the first that starts beyond them. -/
theorem Ranges.contains_ascii {ranges : Ranges} {p : Char → Bool} (count : Nat)
    (key : ∀ n : Fin 128, Ranges.contains (ranges.take count) (Char.ofNat n) = p (Char.ofNat n))
    (beyond : ∀ range ∈ ranges.drop count, 128 ≤ range.1) {c : Char} (h : c.toNat < 128) :
    ranges.contains c = p c := by
  have parts : ranges = ranges.take count ++ ranges.drop count := (List.take_append_drop _ _).symm
  rw [parts, contains_append_of_lt fun range mem => Nat.lt_of_lt_of_le h (beyond range mem)]
  exact forall_ascii (P := fun c => Ranges.contains (ranges.take count) c = p c) key h

end FeatureQuery.Text
