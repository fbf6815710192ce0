import FeatureQuery.Text.Split

/-!
# Pieces between two dots

Pairs of dots are taken from the left, so whether two dots separate a piece depends on what stands before
them. A text is closed if it keeps its place as a piece: two dots after it are read as a separator, whatever
follows. The pieces that splitting finds before a separator are closed, and so are their ends.

## Main results

* `splitDots_closed`: two dots after a closed text separate it from the rest.
* `splitDots_eq_cons_cons`: a piece with another one after it is closed, and two dots stand between them.
* `splitDots_of_no_two_dots`: a text in which no two dots follow each other is one piece.
* `length_splitDots_concat`: how many pieces there are with one more character at the end.
-/

namespace FeatureQuery.Text

/-- No two dots follow each other in the text, nor would they if one more dot stood at its end. -/
def Closed : List Char → Prop
  | [] => True
  | c :: cs => ¬ (c = '.' ∧ (cs ++ ['.']).head? = some '.') ∧ Closed cs

/-- What stands at the end of a closed text is closed. -/
theorem Closed.of_suffix {cs ds : List Char} (h : Closed ds) (hsuffix : cs <:+ ds) : Closed cs := by
  obtain ⟨before, rfl⟩ := hsuffix
  induction before with
  | nil => exact h
  | cons c before ih => exact ih h.2

/-- A text without dots is closed. -/
theorem closed_of_not_mem {cs : List Char} (h : '.' ∉ cs) : Closed cs := by
  induction cs with
  | nil => exact trivial
  | cons c cs ih =>
      rw [List.mem_cons, not_or] at h
      exact ⟨fun hdot => h.1 hdot.1.symm, ih h.2⟩

/-- A text in which no two dots follow each other is closed if no dot stands at its end. -/
theorem closed_of_no_two_dots {cs : List Char} (h : ¬ ['.', '.'] <:+: cs) (hlast : cs.getLast? ≠ some '.') :
    Closed cs := by
  induction cs with
  | nil => exact trivial
  | cons c cs ih =>
      refine ⟨?_, ih (fun hdots => h (hdots.trans (List.suffix_cons c cs).isInfix)) ?_⟩
      · rintro ⟨rfl, hhead⟩
        cases cs with
        | nil => exact hlast rfl
        | cons d cs =>
            obtain rfl : d = '.' := Option.some.inj hhead
            exact h ⟨[], cs, rfl⟩
      · intro hdot
        cases cs with
        | nil => exact absurd hdot (by simp)
        | cons d cs => exact hlast (by rwa [List.getLast?_cons_cons])

/-- The first character goes onto the first piece, unless it is the first dot of a separator. -/
theorem splitDots_cons {c : Char} {cs : List Char} (h : ¬ (c = '.' ∧ cs.head? = some '.')) :
    ∃ piece pieces, splitDots cs = piece :: pieces ∧ splitDots (c :: cs) = (c :: piece) :: pieces := by
  cases hcs : splitDots cs with
  | nil => exact absurd hcs (splitDots_ne_nil cs)
  | cons piece pieces =>
      refine ⟨piece, pieces, rfl, ?_⟩
      rw [splitDots.eq_def]
      split
      · next heq => exact absurd heq (List.cons_ne_nil c cs)
      · next ds heq =>
          obtain ⟨rfl, rfl⟩ := List.cons.inj heq
          exact absurd ⟨rfl, rfl⟩ h
      · next d ds _ heq =>
          obtain ⟨rfl, rfl⟩ := List.cons.inj heq
          rw [hcs]

/-- A first character that is not the first dot of a separator makes no difference to the number of pieces. -/
theorem length_splitDots_cons {c : Char} {cs : List Char} (h : ¬ (c = '.' ∧ cs.head? = some '.')) :
    (splitDots (c :: cs)).length = (splitDots cs).length := by
  obtain ⟨piece, pieces, hcs, hall⟩ := splitDots_cons h
  rw [hall, hcs, List.length_cons, List.length_cons]

/-- A last character that is no dot makes no difference to the number of pieces. -/
theorem length_splitDots_concat {c : Char} (h : c ≠ '.') (cs : List Char) :
    (splitDots (cs ++ [c])).length = (splitDots cs).length := by
  induction cs using splitDots.induct with
  | case1 => exact length_splitDots_cons fun hdots => h hdots.1
  | case2 cs ih => exact congrArg (· + 1) ih
  | case3 d cs _ hcs _ => exact absurd hcs (splitDots_ne_nil cs)
  | case4 d cs hplain _ _ _ ih =>
      have hfirst : ¬ (d = '.' ∧ cs.head? = some '.') := by
        rintro ⟨hd, hhead⟩
        obtain ⟨tail, rfl⟩ := List.head?_eq_some_iff.1 hhead
        exact hplain tail hd rfl
      have hfirst' : ¬ (d = '.' ∧ (cs ++ [c]).head? = some '.') := by
        rintro ⟨hd, hhead⟩
        cases cs with
        | nil => exact h (Option.some.inj hhead)
        | cons e cs => exact hfirst ⟨hd, hhead⟩
      rw [List.cons_append, length_splitDots_cons hfirst', ih, length_splitDots_cons hfirst]

/-- **Closed pieces.** Two dots after a closed text separate it from the rest. -/
theorem splitDots_closed {cs : List Char} (h : Closed cs) (rest : List Char) :
    splitDots (cs ++ '.' :: '.' :: rest) = cs :: splitDots rest := by
  induction cs with
  | nil => rfl
  | cons c cs ih =>
      have hplain : ¬ (c = '.' ∧ (cs ++ '.' :: '.' :: rest).head? = some '.') := by
        intro hdots
        refine h.1 ⟨hdots.1, ?_⟩
        cases cs with
        | nil => rfl
        | cons d cs => exact hdots.2
      obtain ⟨piece, pieces, hrest, hall⟩ := splitDots_cons hplain
      rw [ih h.2, List.cons.injEq] at hrest
      obtain ⟨rfl, rfl⟩ := hrest
      exact hall

/-- A text in which no two dots follow each other is one piece. -/
theorem splitDots_of_no_two_dots {cs : List Char} (h : ¬ ['.', '.'] <:+: cs) : splitDots cs = [cs] := by
  induction cs with
  | nil => rfl
  | cons c cs ih =>
      have hplain : ¬ (c = '.' ∧ cs.head? = some '.') := by
        rintro ⟨rfl, hhead⟩
        obtain ⟨rest, rfl⟩ := List.head?_eq_some_iff.1 hhead
        exact h ⟨[], rest, rfl⟩
      obtain ⟨piece, pieces, hrest, hall⟩ := splitDots_cons hplain
      rw [ih fun hdots => h (hdots.trans (List.suffix_cons c cs).isInfix), List.cons.injEq] at hrest
      obtain ⟨rfl, rfl⟩ := hrest
      exact hall

/-- A text without dots is one piece. -/
theorem splitDots_of_not_mem {cs : List Char} (h : '.' ∉ cs) : splitDots cs = [cs] :=
  splitDots_of_no_two_dots fun hdots => h (hdots.subset List.mem_cons_self)

/-- Two dots that follow each other are both before or both behind another character. -/
theorem two_dots_of_append {before after : List Char} {c : Char} (hc : c ≠ '.')
    (h : ['.', '.'] <:+: before ++ c :: after) : ['.', '.'] <:+: before ∨ ['.', '.'] <:+: after := by
  induction before with
  | nil =>
      refine Or.inr ((List.infix_cons_iff.1 h).resolve_left fun hprefix => ?_)
      exact hc (List.cons_prefix_cons.1 hprefix).1.symm
  | cons d before ih =>
      rcases List.infix_cons_iff.1 h with hprefix | hinfix
      · obtain ⟨rfl, htail⟩ := List.cons_prefix_cons.1 hprefix
        cases before with
        | nil => exact absurd (List.cons_prefix_cons.1 htail).1 (Ne.symm hc)
        | cons e before =>
            obtain ⟨rfl, -⟩ := List.cons_prefix_cons.1 htail
            exact Or.inl (List.prefix_append ['.', '.'] before).isInfix
      · exact (ih hinfix).imp_left fun hdots => hdots.trans (List.suffix_cons d before).isInfix

/-- A piece with another one after it is closed, and two dots stand between them. -/
theorem splitDots_eq_cons_cons {cs first second : List Char} {rest : List (List Char)}
    (h : splitDots cs = first :: second :: rest) :
    Closed first ∧ ∃ tail, cs = first ++ '.' :: '.' :: tail ∧ splitDots tail = second :: rest := by
  induction cs generalizing first with
  | nil => exact absurd h (by simp [splitDots])
  | cons c cs ih =>
      by_cases hdots : c = '.' ∧ cs.head? = some '.'
      · obtain ⟨rfl, hhead⟩ := hdots
        obtain ⟨tail, rfl⟩ : ∃ tail, cs = '.' :: tail := by
          cases cs with
          | nil => exact absurd hhead (by simp)
          | cons d cs =>
              rw [List.head?_cons, Option.some.injEq] at hhead
              exact ⟨cs, by rw [hhead]⟩
        rw [splitDots, List.cons.injEq] at h
        obtain ⟨rfl, htail⟩ := h
        exact ⟨trivial, tail, rfl, htail⟩
      · obtain ⟨piece, pieces, hcs, hall⟩ := splitDots_cons hdots
        rw [hall, List.cons.injEq] at h
        obtain ⟨rfl, rfl⟩ := h
        obtain ⟨hclosed, tail, rfl, htail⟩ := ih hcs
        refine ⟨⟨fun hdot => hdots ⟨hdot.1, ?_⟩, hclosed⟩, tail, rfl, htail⟩
        cases piece with
        | nil => rfl
        | cons d piece => exact hdot.2

/-- A text with one piece is that piece. -/
theorem eq_of_splitDots_eq_singleton {cs piece : List Char} (h : splitDots cs = [piece]) : cs = piece := by
  induction cs generalizing piece with
  | nil => exact (List.cons.inj h).1
  | cons c cs ih =>
      by_cases hdots : c = '.' ∧ cs.head? = some '.'
      · obtain ⟨rfl, hhead⟩ := hdots
        cases cs with
        | nil => exact absurd hhead (by simp)
        | cons d cs =>
            rw [List.head?_cons, Option.some.injEq] at hhead
            subst hhead
            rw [splitDots, List.cons.injEq] at h
            exact absurd h.2 (splitDots_ne_nil cs)
      · obtain ⟨first, pieces, hcs, hall⟩ := splitDots_cons hdots
        rw [hall, List.cons.injEq] at h
        obtain ⟨rfl, rfl⟩ := h
        rw [ih hcs]

/-- A text with two pieces is the pieces with two dots between them. -/
theorem splitDots_eq_pair {cs low high : List Char} (h : splitDots cs = [low, high]) :
    Closed low ∧ cs = low ++ '.' :: '.' :: high := by
  obtain ⟨hclosed, tail, rfl, htail⟩ := splitDots_eq_cons_cons h
  rw [eq_of_splitDots_eq_singleton htail]
  exact ⟨hclosed, rfl⟩

end FeatureQuery.Text
