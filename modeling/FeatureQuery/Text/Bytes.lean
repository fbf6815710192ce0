/-!
# Positions in bytes

A position in a text counts the bytes of its UTF-8 form that stand before it. Only some numbers are
positions: those that end inside a character, or after the text, are not.

## Main results

* `splitAtByte?_eq_some_iff`: a text is split into two parts, the first of which has the given size.
* `between?_append`: the part between two positions is found.
-/

namespace FeatureQuery.Text

/-- The number of bytes that a text takes. -/
def byteSize : List Char → Nat
  | [] => 0
  | c :: cs => c.utf8Size + byteSize cs

/-- The empty text has no bytes. -/
@[simp] theorem byteSize_nil : byteSize [] = 0 := rfl

/-- A text has the bytes of its first character and of its rest. -/
@[simp] theorem byteSize_cons (c : Char) (cs : List Char) :
    byteSize (c :: cs) = c.utf8Size + byteSize cs := rfl

/-- Two texts have the bytes of each. -/
@[simp] theorem byteSize_append (xs ys : List Char) :
    byteSize (xs ++ ys) = byteSize xs + byteSize ys := by
  induction xs with
  | nil => simp
  | cons x xs ih => simp [ih, Nat.add_assoc]

/-- The parts of a text before and after a position. -/
def splitAtByte? : Nat → List Char → Option (List Char × List Char)
  | 0, cs => some ([], cs)
  | _ + 1, [] => none
  | n + 1, c :: cs =>
    if c.utf8Size ≤ n + 1 then
      (splitAtByte? (n + 1 - c.utf8Size) cs).map fun (before, after) => (c :: before, after)
    else none

/-- A text is cut after a part by the size of the part. -/
theorem splitAtByte?_append (xs ys : List Char) :
    splitAtByte? (byteSize xs) (xs ++ ys) = some (xs, ys) := by
  induction xs with
  | nil => simp [splitAtByte?]
  | cons x xs ih =>
    have size : byteSize (x :: xs) = x.utf8Size - 1 + byteSize xs + 1 := by
      have := x.utf8Size_pos
      rw [byteSize_cons]
      omega
    have rest : x.utf8Size - 1 + byteSize xs + 1 - x.utf8Size = byteSize xs := by
      have := x.utf8Size_pos
      omega
    rw [size, List.cons_append, splitAtByte?, if_pos (by omega), rest, ih]
    rfl

/-- What a text is cut into makes it up, with the first part of the size asked for. -/
theorem eq_append_of_splitAtByte? {n : Nat} {cs before after : List Char}
    (h : splitAtByte? n cs = some (before, after)) : cs = before ++ after ∧ byteSize before = n := by
  fun_induction splitAtByte? n cs generalizing before with
  | case1 cs =>
    obtain ⟨rfl, rfl⟩ := Prod.mk.inj (Option.some.inj h)
    exact ⟨rfl, rfl⟩
  | case2 => exact nomatch h
  | case3 n c cs fits ih =>
    obtain ⟨⟨first, rest⟩, found, same⟩ := Option.map_eq_some_iff.1 h
    obtain ⟨rfl, rfl⟩ := Prod.mk.inj same
    obtain ⟨rfl, size⟩ := ih found
    exact ⟨rfl, by rw [byteSize_cons, size]; omega⟩
  | case4 => exact nomatch h

/-- A text is cut into two parts exactly if they make it up and the first has the size asked for. -/
theorem splitAtByte?_eq_some_iff {n : Nat} {cs before after : List Char} :
    splitAtByte? n cs = some (before, after) ↔ cs = before ++ after ∧ byteSize before = n := by
  constructor
  · exact eq_append_of_splitAtByte?
  · rintro ⟨rfl, rfl⟩
    exact splitAtByte?_append before after

/-- The part of a text between two positions. -/
def between? (start stop : Nat) (cs : List Char) : Option (List Char) := do
  let (_, rest) ← splitAtByte? start cs
  let (part, _) ← splitAtByte? (stop - start) rest
  return part

/-- A part is found between the sizes that it starts and ends at. -/
theorem between?_append (xs ys zs : List Char) :
    between? (byteSize xs) (byteSize xs + byteSize ys) (xs ++ (ys ++ zs)) = some ys := by
  simp [between?, splitAtByte?_append]

/-- The characters of a text with the positions they stand at, if it starts at a given one. -/
def withPositions : Nat → List Char → List (Nat × Char)
  | _, [] => []
  | n, c :: cs => (n, c) :: withPositions (n + c.utf8Size) cs

end FeatureQuery.Text
