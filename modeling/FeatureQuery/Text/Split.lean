import FeatureQuery.Text.Blank

/-!
# Splitting texts

Two ways to take a text apart: at every character of a class, and at every occurrence of two dots.

## Main results

* `splitWhere_ne_nil`, `splitDots_ne_nil`: a split text has at least one piece.
* `not_mem_of_mem_wordsBetween`: words hold no separator.
-/

namespace FeatureQuery.Text

/-- The pieces between the characters of a class, empty pieces included. -/
def splitWhere (p : Char → Bool) : List Char → List (List Char)
  | [] => [[]]
  | c :: cs =>
    if p c then
      [] :: splitWhere p cs
    else
      match splitWhere p cs with
      | [] => [[c]]
      | piece :: pieces => (c :: piece) :: pieces

/-- A text has at least one piece. -/
theorem splitWhere_ne_nil (p : Char → Bool) (cs : List Char) : splitWhere p cs ≠ [] := by
  cases cs with
  | nil => simp [splitWhere]
  | cons c cs =>
    unfold splitWhere
    split
    · simp
    · split <;> simp

/-- The non-empty pieces between the characters of a class. -/
def wordsBetween (p : Char → Bool) (cs : List Char) : List (List Char) :=
  (splitWhere p cs).filter fun piece => !piece.isEmpty

/-- The words of a text: its pieces between blanks. -/
def words (cs : List Char) : List (List Char) :=
  wordsBetween isBlank cs

/-- No piece has a separator in it. -/
theorem not_mem_of_mem_splitWhere {p : Char → Bool} {cs piece : List Char} {c : Char}
    (h : piece ∈ splitWhere p cs) (hc : c ∈ piece) : p c = false := by
  induction cs generalizing piece with
  | nil => simp_all [splitWhere]
  | cons d cs ih =>
    unfold splitWhere at h
    split at h
    · rcases List.mem_cons.1 h with rfl | h
      · simp at hc
      · exact ih h hc
    · rename_i hd
      split at h
      · simp_all
      · rename_i first rest heq
        rcases List.mem_cons.1 h with rfl | h
        · rcases List.mem_cons.1 hc with rfl | hc
          · simpa using hd
          · exact ih (heq ▸ List.mem_cons_self) hc
        · exact ih (heq ▸ List.mem_cons_of_mem _ h) hc

/-- A word between separators holds none of them. -/
theorem not_mem_of_mem_wordsBetween {p : Char → Bool} {cs word : List Char} {c : Char}
    (h : word ∈ wordsBetween p cs) (hc : c ∈ word) : p c = false :=
  not_mem_of_mem_splitWhere (List.mem_filter.1 h).1 hc

/-- The pieces between the occurrences of `..`, which are taken from the left and do not overlap. -/
def splitDots : List Char → List (List Char)
  | [] => [[]]
  | '.' :: '.' :: cs => [] :: splitDots cs
  | c :: cs =>
    match splitDots cs with
    | [] => [[c]]
    | piece :: pieces => (c :: piece) :: pieces

/-- A text has at least one piece between double dots. -/
theorem splitDots_ne_nil (cs : List Char) : splitDots cs ≠ [] := by
  fun_cases splitDots cs <;> simp

/-- The texts with `gap` between each two of them. -/
def joinWith (gap : List Char) (texts : List (List Char)) : List Char :=
  (texts.intersperse gap).flatten

end FeatureQuery.Text
