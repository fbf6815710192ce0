import FeatureQuery.Proofs.Text.Collapsing

/-!
# The words of a text

The words of a text are found one after the other: a word goes on up to the next blank, and blanks before it do
not count.

## Main results

* `joinWith_splitWhere`: the pieces between the occurrences of a character make up the text.
* `words_append`: a word goes on up to the next blank.
* `words_joinWith`: words with blanks between them are the words of the text.
* `words_cases`: a text is blank, or it has a first word and the words after it.
-/

namespace FeatureQuery.Text

/-- A piece goes on up to the first separator. -/
theorem splitWhere_append {p : Char → Bool} {piece : List Char} (hpiece : ∀ c ∈ piece, p c = false)
    {b : Char} (hb : p b = true) (rest : List Char) :
    splitWhere p (piece ++ b :: rest) = piece :: splitWhere p rest := by
  induction piece with
  | nil => exact splitWhere_cons_of_pos hb rest
  | cons c piece ih =>
      obtain ⟨hc, hpiece⟩ := List.forall_mem_cons.1 hpiece
      exact splitWhere_cons_of_neg hc (ih hpiece)

/-- Without a separator there is one piece. -/
theorem splitWhere_of_forall {p : Char → Bool} {piece : List Char} (hpiece : ∀ c ∈ piece, p c = false) :
    splitWhere p piece = [piece] := by
  induction piece with
  | nil => rfl
  | cons c piece ih =>
      obtain ⟨hc, hpiece⟩ := List.forall_mem_cons.1 hpiece
      exact splitWhere_cons_of_neg hc (ih hpiece)

/-- The pieces between the occurrences of a character, with that character between them, are the text. -/
theorem joinWith_splitWhere (b : Char) (cs : List Char) : joinWith [b] (splitWhere (fun c => c == b) cs) = cs := by
  induction cs with
  | nil => rfl
  | cons c cs ih =>
      cases hcs : splitWhere (fun c => c == b) cs with
      | nil => exact absurd hcs (splitWhere_ne_nil _ cs)
      | cons piece pieces =>
          rw [hcs] at ih
          cases hc : c == b with
          | true =>
              rw [splitWhere_cons_of_pos (p := fun c => c == b) hc, hcs, eq_of_beq hc]
              exact congrArg (List.cons b) ih
          | false =>
              rw [splitWhere_cons_of_neg (p := fun c => c == b) hc hcs]
              refine Eq.trans ?_ (congrArg (List.cons c) ih)
              cases pieces with
              | nil => rfl
              | cons next pieces => rfl

/-- Blanks before a text do not count. -/
theorem words_blanks_append {before : List Char} (h : Blanks before) (cs : List Char) :
    words (before ++ cs) = words cs := by
  induction before with
  | nil => rfl
  | cons c before ih =>
      obtain ⟨hc, hbefore⟩ := List.forall_mem_cons.1 h
      exact (wordsBetween_cons_of_pos hc _).trans (ih hbefore)

/-- A word goes on up to the next blank. -/
theorem words_append {word rest : List Char} (hne : word ≠ []) (hword : ∀ c ∈ word, isBlank c = false)
    (hrest : ∀ c, rest.head? = some c → isBlank c = true) : words (word ++ rest) = word :: words rest := by
  have hkeep : ∀ pieces, (word :: pieces).filter (fun piece => !piece.isEmpty)
      = word :: pieces.filter fun piece => !piece.isEmpty := by
    intro pieces
    exact List.filter_cons_of_pos (by simpa using hne)
  cases rest with
  | nil =>
      rw [List.append_nil, words, wordsBetween, splitWhere_of_forall hword, hkeep]
      rfl
  | cons b rest =>
      have hb : isBlank b = true := hrest b rfl
      rw [words, words, wordsBetween_cons_of_pos hb, wordsBetween, splitWhere_append hword hb, hkeep]
      rfl

/-- Words with a blank between each two of them are the words of the text. -/
theorem words_joinWith {ws : List (List Char)} (h : ∀ word ∈ ws, word ≠ [] ∧ ∀ c ∈ word, isBlank c = false) :
    words (joinWith [' '] ws) = ws := by
  induction ws with
  | nil => rfl
  | cons word ws ih =>
      obtain ⟨⟨hne, hword⟩, hws⟩ := List.forall_mem_cons.1 h
      cases ws with
      | nil =>
          rw [show joinWith [' '] [word] = word ++ [] from rfl, words_append hne hword (by simp)]
          rfl
      | cons next ws =>
          have hjoin : joinWith [' '] (word :: next :: ws) = word ++ ([' '] ++ joinWith [' '] (next :: ws)) := rfl
          have hblank : Blanks [' '] := List.forall_mem_singleton.2 rfl
          rw [hjoin, words_append hne hword, words_blanks_append hblank, ih hws]
          intro c hc
          rw [← Option.some.inj hc]
          rfl

/-- A text is blank, or it has a first word, with blanks before it and the other words after it. -/
theorem words_cases (cs : List Char) :
    (Blanks cs ∧ words cs = [])
      ∨ ∃ before word after, cs = before ++ (word ++ after) ∧ Blanks before ∧ word ≠ []
        ∧ (∀ c ∈ word, isBlank c = false) ∧ (∀ c, after.head? = some c → isBlank c = true)
        ∧ words cs = word :: words after := by
  obtain ⟨before, hbefore, heq⟩ := exists_trimStart cs
  rw [heq, words_blanks_append hbefore]
  cases hstart : trimStart cs with
  | nil => exact Or.inl ⟨by rwa [List.append_nil], rfl⟩
  | cons c ds =>
      have hc : isBlank c = false := not_isBlank_of_trimStart_eq_cons hstart
      have hsplit : (c :: ds).takeWhile (!isBlank ·) ++ (c :: ds).dropWhile (!isBlank ·) = c :: ds :=
        List.takeWhile_append_dropWhile
      have hne : (c :: ds).takeWhile (!isBlank ·) ≠ [] := by
        rw [List.takeWhile_cons_of_pos (by rw [hc]; rfl)]
        exact List.cons_ne_nil _ _
      have hword : ∀ d ∈ (c :: ds).takeWhile (!isBlank ·), isBlank d = false := by
        intro d hd
        simpa using List.all_eq_true.1 List.all_takeWhile d hd
      have hafter : ∀ d, ((c :: ds).dropWhile (!isBlank ·)).head? = some d → isBlank d = true := by
        intro d hd
        have hstop := List.head?_dropWhile_not (!isBlank ·) (c :: ds)
        rw [hd] at hstop
        simpa using hstop
      refine Or.inr ⟨before, _, _, by rw [hsplit], hbefore, hne, hword, hafter, ?_⟩
      rw [← words_append hne hword hafter, hsplit]

end FeatureQuery.Text
