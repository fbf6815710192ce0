import FeatureQuery.Literal.Reader
import Mathlib.Data.List.Basic

/-!
# What a value denotes

The text after an operator has one of three shapes, and each has its own literals: two bounds denote a range,
no items denote the empty text, and otherwise every item of the list denotes a literal of its own.

## Main results

* `Literal.ofRaw_cases`: the three shapes of a value with their literals.
* `Literal.soleRange_ofRaw`: a range is never one of several literals.
-/

namespace FeatureQuery.Literal

open FeatureQuery.Text (splitDots)

/-- **Shapes.** A value denotes what its two bounds do, or the empty text, or what its items do. -/
theorem ofRaw_cases (context : Context) (raw : List Char) :
    (∃ low high, splitDots raw = [low, high]
        ∧ ofRaw context raw = [ofBounds context raw low high])
      ∨ (splitDots raw).length ≠ 2
        ∧ ((splitList raw = [] ∧ ofRaw context raw = [.text ""])
          ∨ (splitList raw ≠ [] ∧ ofRaw context raw = (splitList raw).map (scalar context))) := by
  by_cases hlength : (splitDots raw).length = 2
  · obtain ⟨low, high, hdots⟩ := List.length_eq_two.1 hlength
    exact Or.inl ⟨low, high, hdots, by rw [ofRaw, hdots]⟩
  · refine Or.inr ⟨hlength, ?_⟩
    rw [ofRaw]
    split
    · next low high hdots => exact absurd (by rw [hdots]; rfl) hlength
    · cases splitList raw with
      | nil => exact Or.inl ⟨rfl, rfl⟩
      | cons item items => exact Or.inr ⟨List.cons_ne_nil item items, rfl⟩

/-- A range among some literals is the only one of them. -/
def SoleRange (literals : List Literal) : Prop :=
  ∀ l ∈ literals, l.isRange = true → literals = [l]

/-- The text after an operator denotes a range alone, or literals that are none. -/
theorem soleRange_ofRaw (context : Context) (raw : List Char) : SoleRange (ofRaw context raw) := by
  intro l hl hrange
  rcases ofRaw_cases context raw with ⟨low, high, -, heq⟩ | ⟨-, ⟨-, heq⟩ | ⟨-, heq⟩⟩
  · rw [heq, List.mem_singleton] at hl
    rw [heq, hl]
  · rw [heq, List.mem_singleton] at hl
    rw [heq, hl]
  · rw [heq] at hl
    obtain ⟨item, -, rfl⟩ := List.mem_map.1 hl
    rw [not_isRange_scalar] at hrange
    exact absurd hrange Bool.false_ne_true

end FeatureQuery.Literal
