import FeatureQuery.Proofs.Text.Splitting
import FeatureQuery.Proofs.Text.Trimming

/-!
# Collapsed texts

A collapsed text has a single blank where there was a run of blanks. All other characters keep their order,
and two of them have a blank between them exactly if they had one before, so whatever takes a text apart at
such characters takes the collapsed text apart in the same places. Only the number and the kind of the blanks
are lost.

Taking a text apart may cut through a run of blanks; `collapseFrom` knows whether one was begun before.

## Main results

* `takeWhile_collapse`, `dropWhile_collapse`: a run of characters that are not blank stays as it is.
* `trim_collapseFrom`: blanks around a text can be taken off before or after.
* `splitDots_collapseFrom`: two dots separate the same pieces.
* `wordsBetween_collapse`: the words of a text are those of the collapsed one.
* `reader_collapse`: what is read from texts without blanks only cannot be told apart.
-/

namespace FeatureQuery.Text

/-- The text with one blank for each run of blanks; with `inBlank` its first run was begun before. -/
def collapseFrom (inBlank : Bool) : List Char → List Char
  | [] => []
  | c :: cs =>
    if isBlank c then
      if inBlank then collapseFrom true cs else ' ' :: collapseFrom true cs
    else
      c :: collapseFrom false cs

/-- The text with one blank for each run of blanks. -/
def collapse (cs : List Char) : List Char :=
  collapseFrom false cs

theorem isBlank_space : isBlank ' ' = true := by
  decide

/-- A blank is none of the other characters. -/
theorem ne_of_isBlank {c d : Char} (hc : isBlank c = true) (hd : isBlank d = false) : c ≠ d := by
  rintro rfl
  exact Bool.false_ne_true (hd.symm.trans hc)

/-- What a class does not treat as it treats the blanks is no blank. -/
theorem not_isBlank_of_ne {p : Char → Bool} {b : Bool} (hp : ∀ c, isBlank c = true → p c = b) {c : Char}
    (h : p c ≠ b) : isBlank c = false := by
  refine Bool.eq_false_iff.2 ?_
  intro hblank
  exact h (hp c hblank)

theorem collapse_nil : collapse [] = [] := rfl

/-- A blank after a blank is left out. -/
theorem collapseFrom_true_cons {c : Char} (h : isBlank c = true) (cs : List Char) :
    collapseFrom true (c :: cs) = collapseFrom true cs := by
  rw [collapseFrom, if_pos h, if_pos rfl]

/-- The first of some blanks is kept, as a space. -/
theorem collapseFrom_false_cons {c : Char} (h : isBlank c = true) (cs : List Char) :
    collapseFrom false (c :: cs) = ' ' :: collapseFrom true cs := by
  rw [collapseFrom, if_pos h, if_neg Bool.false_ne_true]

/-- A character that is not blank stays, and ends a run of blanks. -/
theorem collapseFrom_cons {c : Char} (h : isBlank c = false) (inBlank : Bool) (cs : List Char) :
    collapseFrom inBlank (c :: cs) = c :: collapse cs := by
  rw [collapseFrom, if_neg (Bool.eq_false_iff.1 h), collapse]

/-- Any other character is kept. -/
theorem collapse_cons {c : Char} (h : isBlank c = false) (cs : List Char) :
    collapse (c :: cs) = c :: collapse cs :=
  collapseFrom_cons h false cs

/-- A text without blanks is left alone. -/
theorem collapseFrom_of_not_blank {cs : List Char} (h : ∀ c ∈ cs, isBlank c = false) (inBlank : Bool) :
    collapseFrom inBlank cs = cs := by
  induction cs generalizing inBlank with
  | nil => rfl
  | cons c cs ih =>
      rw [List.forall_mem_cons] at h
      rw [collapseFrom_cons h.1, collapse, ih h.2]

/-- What starts with a character that is not blank begins no run. -/
theorem collapseFrom_of_head {cs : List Char} (h : ∀ c, cs.head? = some c → isBlank c = false)
    (inBlank : Bool) : collapseFrom inBlank cs = collapse cs := by
  cases cs with
  | nil => rfl
  | cons c cs => rw [collapseFrom_cons (h c rfl), collapse_cons (h c rfl)]

/-- Only the empty text collapses to nothing. -/
theorem collapse_eq_nil_iff {cs : List Char} : collapse cs = [] ↔ cs = [] := by
  cases cs with
  | nil => exact Iff.rfl
  | cons c cs =>
      refine iff_of_false ?_ (List.cons_ne_nil c cs)
      by_cases hc : isBlank c = true
      · rw [collapse, collapseFrom_false_cons hc]
        exact List.cons_ne_nil _ _
      · rw [collapse_cons (Bool.eq_false_iff.2 hc)]
        exact List.cons_ne_nil _ _

theorem isEmpty_collapse (cs : List Char) : (collapse cs).isEmpty = cs.isEmpty := by
  rw [Bool.eq_iff_iff, List.isEmpty_iff, List.isEmpty_iff, collapse_eq_nil_iff]

/-- Two texts are collapsed one after the other, where the second may go on with a run of the first. -/
theorem exists_collapseFrom_append (inBlank : Bool) (cs ds : List Char) :
    ∃ inBlank', collapseFrom inBlank (cs ++ ds) = collapseFrom inBlank cs ++ collapseFrom inBlank' ds := by
  induction cs generalizing inBlank with
  | nil => exact ⟨inBlank, rfl⟩
  | cons c cs ih =>
      by_cases hc : isBlank c = true
      · obtain ⟨inBlank', heq⟩ := ih true
        refine ⟨inBlank', ?_⟩
        cases inBlank with
        | true => rw [List.cons_append, collapseFrom_true_cons hc, collapseFrom_true_cons hc, heq]
        | false =>
            rw [List.cons_append, collapseFrom_false_cons hc, collapseFrom_false_cons hc, heq,
              List.cons_append]
      · obtain ⟨inBlank', heq⟩ := ih false
        rw [Bool.not_eq_true] at hc
        refine ⟨inBlank', ?_⟩
        rw [List.cons_append, collapseFrom_cons hc, collapseFrom_cons hc, collapse, heq, List.cons_append]
        rfl

/-- What starts with a character that is not blank is collapsed on its own. -/
theorem collapseFrom_append {ds : List Char} (h : ∀ c, ds.head? = some c → isBlank c = false)
    (inBlank : Bool) (cs : List Char) :
    collapseFrom inBlank (cs ++ ds) = collapseFrom inBlank cs ++ collapse ds := by
  obtain ⟨inBlank', heq⟩ := exists_collapseFrom_append inBlank cs ds
  rw [heq, collapseFrom_of_head h]

/-! ### Characters -/

/-- A class of characters without blanks picks the same characters. -/
theorem filter_collapseFrom {p : Char → Bool} (hp : ∀ c, isBlank c = true → p c = false)
    (inBlank : Bool) (cs : List Char) : (collapseFrom inBlank cs).filter p = cs.filter p := by
  induction cs generalizing inBlank with
  | nil => rfl
  | cons c cs ih =>
      by_cases hc : isBlank c = true
      · rw [List.filter_cons_of_neg (Bool.eq_false_iff.1 (hp c hc))]
        cases inBlank with
        | true => rw [collapseFrom_true_cons hc, ih]
        | false =>
            rw [collapseFrom_false_cons hc,
              List.filter_cons_of_neg (Bool.eq_false_iff.1 (hp ' ' isBlank_space)), ih]
      · rw [Bool.not_eq_true] at hc
        rw [collapseFrom_cons hc, List.filter_cons, List.filter_cons, collapse, ih]

/-- Blanks stay blanks. -/
theorem Blanks.collapseFrom {cs : List Char} (h : Blanks cs) (inBlank : Bool) :
    Blanks (collapseFrom inBlank cs) := by
  induction cs generalizing inBlank with
  | nil => exact blanks_nil
  | cons c cs ih =>
      obtain ⟨hc, hcs⟩ := List.forall_mem_cons.1 h
      cases inBlank with
      | true =>
          rw [collapseFrom_true_cons hc]
          exact ih hcs true
      | false =>
          rw [collapseFrom_false_cons hc]
          exact List.forall_mem_cons.2 ⟨isBlank_space, ih hcs true⟩

/-- A text starts with the same character, or with a blank in either form. -/
theorem head?_collapse_iff {c : Char} (hc : isBlank c = false) (cs : List Char) :
    (collapse cs).head? = some c ↔ cs.head? = some c := by
  cases cs with
  | nil => exact Iff.rfl
  | cons d cs =>
      by_cases hd : isBlank d = true
      · have hne : ∀ {d}, isBlank d = true → ¬ some d = some c := by
          intro d hd h
          exact ne_of_isBlank hd hc (Option.some.inj h)
        rw [collapse, collapseFrom_false_cons hd, List.head?_cons, List.head?_cons]
        exact iff_of_false (hne isBlank_space) (hne hd)
      · rw [collapse_cons (Bool.eq_false_iff.2 hd), List.head?_cons, List.head?_cons]

/-- A text that ends in a character that is not blank ends in it when it is collapsed. -/
theorem collapse_concat {c : Char} (hc : isBlank c = false) (cs : List Char) :
    collapse (cs ++ [c]) = collapse cs ++ [c] := by
  have hhead : ∀ d, [c].head? = some d → isBlank d = false := by
    intro d hd
    rw [List.head?_cons, Option.some.injEq] at hd
    exact hd ▸ hc
  rw [collapse, collapseFrom_append hhead, collapse_cons hc, collapse_nil, collapse]

/-- If the collapsed text ends in a character that is not blank, the text does. -/
theorem getLast?_of_getLast?_collapseFrom {c : Char} (hc : isBlank c = false) {inBlank : Bool}
    {cs : List Char} (h : (collapseFrom inBlank cs).getLast? = some c) : cs.getLast? = some c := by
  induction cs generalizing inBlank with
  | nil => exact h
  | cons d cs ih =>
      rw [List.getLast?_cons]
      by_cases hd : isBlank d = true
      · have hrest : (collapseFrom true cs).getLast? = some c := by
          cases inBlank with
          | true => rwa [collapseFrom_true_cons hd] at h
          | false =>
              rw [collapseFrom_false_cons hd, List.getLast?_cons, Option.some.injEq] at h
              cases hlast : (collapseFrom true cs).getLast? with
              | none =>
                  rw [hlast, Option.getD_none] at h
                  rw [← h, isBlank_space] at hc
                  exact absurd hc.symm Bool.false_ne_true
              | some e => rw [← h, hlast, Option.getD_some]
        rw [ih hrest, Option.getD_some]
      · rw [collapseFrom_cons (Bool.eq_false_iff.2 hd), List.getLast?_cons, Option.some.injEq] at h
        cases hlast : (collapse cs).getLast? with
        | none =>
            rw [collapse_eq_nil_iff.1 (List.getLast?_eq_none_iff.1 hlast)]
            rw [hlast] at h
            exact congrArg some h
        | some e =>
            rw [hlast, Option.getD_some] at h
            have hrest : (collapseFrom false cs).getLast? = some c := hlast.trans (congrArg some h)
            rw [ih hrest, Option.getD_some]

/-! ### Runs and trimming -/

section Runs

variable {p : Char → Bool}

/-- A run of characters that are not blank stays as it is. -/
theorem takeWhile_collapse (hp : ∀ c, isBlank c = true → p c = false) (cs : List Char) :
    (collapse cs).takeWhile p = cs.takeWhile p := by
  induction cs with
  | nil => rfl
  | cons c cs ih =>
      by_cases hc : isBlank c = true
      · rw [collapse, collapseFrom_false_cons hc,
          List.takeWhile_cons_of_neg (Bool.eq_false_iff.1 (hp ' ' isBlank_space)),
          List.takeWhile_cons_of_neg (Bool.eq_false_iff.1 (hp c hc))]
      · rw [collapse_cons (Bool.eq_false_iff.2 hc), List.takeWhile_cons, List.takeWhile_cons, ih]

/-- What follows a run of characters that are not blank is collapsed on its own. -/
theorem dropWhile_collapse (hp : ∀ c, isBlank c = true → p c = false) (cs : List Char) :
    (collapse cs).dropWhile p = collapse (cs.dropWhile p) := by
  induction cs with
  | nil => rfl
  | cons c cs ih =>
      by_cases hc : isBlank c = true
      · rw [List.dropWhile_cons_of_neg (Bool.eq_false_iff.1 (hp c hc)), collapse,
          collapseFrom_false_cons hc,
          List.dropWhile_cons_of_neg (Bool.eq_false_iff.1 (hp ' ' isBlank_space))]
      · rw [collapse_cons (Bool.eq_false_iff.2 hc), List.dropWhile_cons, List.dropWhile_cons, ih]
        split
        · rfl
        · rw [collapse_cons (Bool.eq_false_iff.2 hc)]

/-- A run that goes on over blanks is collapsed on its own. -/
theorem takeWhile_collapseFrom (hp : ∀ c, isBlank c = true → p c = true) (inBlank : Bool)
    (cs : List Char) : (collapseFrom inBlank cs).takeWhile p = collapseFrom inBlank (cs.takeWhile p) := by
  induction cs generalizing inBlank with
  | nil => rfl
  | cons c cs ih =>
      by_cases hc : isBlank c = true
      · rw [List.takeWhile_cons_of_pos (hp c hc)]
        cases inBlank with
        | true => rw [collapseFrom_true_cons hc, collapseFrom_true_cons hc, ih]
        | false =>
            rw [collapseFrom_false_cons hc, collapseFrom_false_cons hc,
              List.takeWhile_cons_of_pos (hp ' ' isBlank_space), ih]
      · rw [collapseFrom_cons (Bool.eq_false_iff.2 hc), List.takeWhile_cons, List.takeWhile_cons, collapse, ih]
        split
        · rw [collapseFrom_cons (Bool.eq_false_iff.2 hc), collapse]
        · rfl

/-- What follows a run that goes on over blanks is collapsed on its own. -/
theorem dropWhile_collapseFrom (hp : ∀ c, isBlank c = true → p c = true) (inBlank : Bool)
    (cs : List Char) : (collapseFrom inBlank cs).dropWhile p = collapse (cs.dropWhile p) := by
  induction cs generalizing inBlank with
  | nil => rfl
  | cons c cs ih =>
      by_cases hc : isBlank c = true
      · rw [List.dropWhile_cons_of_pos (hp c hc)]
        cases inBlank with
        | true => rw [collapseFrom_true_cons hc, ih]
        | false =>
            rw [collapseFrom_false_cons hc, List.dropWhile_cons_of_pos (hp ' ' isBlank_space), ih]
      · rw [collapseFrom_cons (Bool.eq_false_iff.2 hc), List.dropWhile_cons, List.dropWhile_cons]
        split
        · rw [collapse, ih]
        · rw [collapse_cons (Bool.eq_false_iff.2 hc)]

end Runs

/-- Blanks at the start can be taken off before or after. -/
theorem trimStart_collapseFrom (inBlank : Bool) (cs : List Char) :
    trimStart (collapseFrom inBlank cs) = collapse (trimStart cs) :=
  dropWhile_collapseFrom (fun _ hc => hc) inBlank cs

/-- A tight text stays tight. -/
theorem Tight.collapse {cs : List Char} (h : Tight cs) : Tight (collapse cs) where
  head c hc := by
    cases cs with
    | nil => exact absurd hc (by simp [collapse_nil])
    | cons d cs =>
        have hd := h.head d rfl
        rw [collapse_cons hd, List.head?_cons, Option.some.injEq] at hc
        exact hc ▸ hd
  last c hc := by
    rcases List.eq_nil_or_concat cs with rfl | ⟨init, d, rfl⟩
    · exact absurd hc (by simp [collapse_nil])
    · rw [List.concat_eq_append] at hc h
      have hd := h.last d List.getLast?_concat
      rw [collapse_concat hd, List.getLast?_concat, Option.some.injEq] at hc
      exact hc ▸ hd

/-- Blanks around a text can be taken off before or after. -/
theorem trim_collapseFrom (inBlank : Bool) (cs : List Char) :
    trim (collapseFrom inBlank cs) = collapse (trim cs) := by
  obtain ⟨after, hafter, hend⟩ := exists_trimStart_eq cs
  obtain ⟨inBlank', heq⟩ := exists_collapseFrom_append false (trim cs) after
  rw [trim, trimStart_collapseFrom, hend, collapse, heq, trimEnd_append_blanks (hafter.collapseFrom inBlank')]
  exact trimEnd_of_last (tight_trim cs).collapse.last

/-! ### Pieces -/

/-- Two dots separate the same pieces of a text and of the collapsed one. -/
theorem splitDots_collapseFrom (inBlank : Bool) {cs piece : List Char} {pieces : List (List Char)}
    (h : splitDots cs = piece :: pieces) :
    splitDots (collapseFrom inBlank cs) = collapseFrom inBlank piece :: pieces.map collapse := by
  induction cs using splitDots.induct generalizing inBlank piece pieces with
  | case1 =>
      obtain ⟨rfl, rfl⟩ := List.cons.inj h
      rfl
  | case2 cs ih =>
      rw [splitDots, List.cons.injEq] at h
      obtain ⟨rfl, rfl⟩ := h
      have hdot : isBlank '.' = false := by decide
      cases hcs : splitDots cs with
      | nil => exact absurd hcs (splitDots_ne_nil cs)
      | cons first rest =>
          rw [collapseFrom_cons hdot, collapse_cons hdot, splitDots, collapse, ih false hcs]
          rfl
  | case3 c cs _ hnil => exact absurd hnil (splitDots_ne_nil cs)
  | case4 c cs hplain first rest hcs ih =>
      have hnot : ¬ (c = '.' ∧ cs.head? = some '.') := by
        rintro ⟨hc, hhead⟩
        obtain ⟨tail, htail⟩ := List.head?_eq_some_iff.1 hhead
        exact hplain tail hc htail
      obtain ⟨first', rest', hfirst, hall⟩ := splitDots_cons hnot
      obtain ⟨rfl, rfl⟩ := List.cons.inj (hcs.symm.trans hfirst)
      obtain ⟨rfl, rfl⟩ := List.cons.inj (hall.symm.trans h)
      by_cases hc : isBlank c = true
      · cases inBlank with
        | true => rw [collapseFrom_true_cons hc, collapseFrom_true_cons hc, ih true hcs]
        | false =>
            have hspace : ¬ (' ' = '.' ∧ (collapseFrom true cs).head? = some '.') := by
              intro hdots
              exact absurd hdots.1 (by decide)
            obtain ⟨first', rest', hfirst, hall⟩ := splitDots_cons hspace
            obtain ⟨rfl, rfl⟩ := List.cons.inj ((ih true hcs).symm.trans hfirst)
            rw [collapseFrom_false_cons hc, collapseFrom_false_cons hc, hall]
      · rw [Bool.not_eq_true] at hc
        have hnot' : ¬ (c = '.' ∧ (collapse cs).head? = some '.') := by
          intro hdots
          exact hnot ⟨hdots.1, (head?_collapse_iff (by decide) cs).1 hdots.2⟩
        obtain ⟨first', rest', hfirst, hall⟩ := splitDots_cons hnot'
        obtain ⟨rfl, rfl⟩ := List.cons.inj ((ih false hcs).symm.trans hfirst)
        rw [collapseFrom_cons hc, collapseFrom_cons hc, hall, collapse]

section Words

variable {p : Char → Bool}

/-- A separator ends a piece. -/
theorem splitWhere_cons_of_pos {c : Char} (h : p c = true) (cs : List Char) :
    splitWhere p (c :: cs) = [] :: splitWhere p cs := by
  rw [splitWhere, if_pos h]

/-- Any other character belongs to the piece after it. -/
theorem splitWhere_cons_of_neg {c : Char} (h : p c = false) {cs piece : List Char}
    {pieces : List (List Char)} (hcs : splitWhere p cs = piece :: pieces) :
    splitWhere p (c :: cs) = (c :: piece) :: pieces := by
  rw [splitWhere, if_neg (Bool.eq_false_iff.1 h), hcs]

/-- A separator at the start is in no word. -/
theorem wordsBetween_cons_of_pos {c : Char} (h : p c = true) (cs : List Char) :
    wordsBetween p (c :: cs) = wordsBetween p cs := by
  rw [wordsBetween, splitWhere_cons_of_pos h]
  rfl

/-- The first piece is a word unless it is empty. -/
theorem wordsBetween_eq {cs piece : List Char} {pieces : List (List Char)}
    (h : splitWhere p cs = piece :: pieces) :
    wordsBetween p cs
      = (if piece.isEmpty then [] else [piece]) ++ pieces.filter fun piece => !piece.isEmpty := by
  rw [wordsBetween, h]
  cases piece with
  | nil => rfl
  | cons c piece => rfl

/-- A class that holds all blanks leaves the same words of a text and of the collapsed one. The first piece
is the same too, which carries the induction where a word goes on. -/
theorem splitWhere_collapse (hp : ∀ c, isBlank c = true → p c = true) {cs piece : List Char}
    {pieces : List (List Char)} (h : splitWhere p cs = piece :: pieces) :
    (∃ pieces', splitWhere p (collapse cs) = piece :: pieces')
      ∧ ∀ inBlank, wordsBetween p (collapseFrom inBlank cs) = wordsBetween p cs := by
  induction cs generalizing piece pieces with
  | nil => exact ⟨⟨pieces, h⟩, fun _ => rfl⟩
  | cons c cs ih =>
      cases hcs : splitWhere p cs with
      | nil => exact absurd hcs (splitWhere_ne_nil p cs)
      | cons first rest =>
          obtain ⟨⟨rest', hrest'⟩, hwords⟩ := ih hcs
          by_cases hpc : p c = true
          · rw [splitWhere_cons_of_pos hpc, List.cons.injEq] at h
            obtain ⟨rfl, rfl⟩ := h
            have hspace := hp ' ' isBlank_space
            by_cases hc : isBlank c = true
            · refine ⟨⟨splitWhere p (collapseFrom true cs), ?_⟩, ?_⟩
              · rw [collapse, collapseFrom_false_cons hc, splitWhere_cons_of_pos hspace]
              · intro inBlank
                rw [wordsBetween_cons_of_pos hpc, ← hwords true]
                cases inBlank with
                | true => rw [collapseFrom_true_cons hc]
                | false => rw [collapseFrom_false_cons hc, wordsBetween_cons_of_pos hspace]
            · rw [Bool.not_eq_true] at hc
              refine ⟨⟨splitWhere p (collapse cs), ?_⟩, ?_⟩
              · rw [collapse_cons hc, splitWhere_cons_of_pos hpc]
              · intro inBlank
                rw [collapseFrom_cons hc, wordsBetween_cons_of_pos hpc, wordsBetween_cons_of_pos hpc]
                exact hwords false
          · rw [Bool.not_eq_true] at hpc
            have hc : isBlank c = false := not_isBlank_of_ne hp (Bool.eq_false_iff.1 hpc)
            have hrest := hwords false
            rw [wordsBetween_eq hcs, ← collapse, wordsBetween_eq hrest', List.append_cancel_left_eq] at hrest
            rw [splitWhere_cons_of_neg hpc hcs, List.cons.injEq] at h
            obtain ⟨rfl, rfl⟩ := h
            have hcollapse := splitWhere_cons_of_neg hpc hrest'
            refine ⟨⟨rest', ?_⟩, ?_⟩
            · rw [collapse_cons hc, hcollapse]
            · intro inBlank
              rw [collapseFrom_cons hc, wordsBetween_eq hcollapse,
                wordsBetween_eq (splitWhere_cons_of_neg hpc hcs), hrest]

/-- **Words.** A class that holds all blanks leaves the same words of a text and of the collapsed one. -/
theorem wordsBetween_collapse (hp : ∀ c, isBlank c = true → p c = true) (cs : List Char) :
    wordsBetween p (collapse cs) = wordsBetween p cs := by
  cases h : splitWhere p cs with
  | nil => exact absurd h (splitWhere_ne_nil p cs)
  | cons piece pieces => exact (splitWhere_collapse hp h).2 false

end Words

/-- The words with a blank after each of them are the collapsed text without blanks at its start, if a blank
follows it. -/
theorem flatMap_words (cs : List Char) :
    (words cs).flatMap (· ++ [' ']) = collapseFrom true (cs ++ [' ']) := by
  -- The two forms need each other: a word goes on in the first one, and a run of blanks in the second.
  have key : ∀ {piece : List Char} {pieces : List (List Char)}, splitWhere isBlank cs = piece :: pieces →
      collapse (cs ++ [' '])
        = piece ++ ' ' :: (pieces.filter fun piece => !piece.isEmpty).flatMap (· ++ [' '])
      ∧ collapseFrom true (cs ++ [' ']) = (words cs).flatMap (· ++ [' ']) := by
    induction cs with
    | nil =>
        intro piece pieces h
        obtain ⟨rfl, rfl⟩ := List.cons.inj h
        exact ⟨rfl, rfl⟩
    | cons c cs ih =>
        intro piece pieces h
        cases hcs : splitWhere isBlank cs with
        | nil => exact absurd hcs (splitWhere_ne_nil isBlank cs)
        | cons first rest =>
            obtain ⟨hfalse, htrue⟩ := ih hcs
            by_cases hc : isBlank c = true
            · rw [splitWhere_cons_of_pos hc, List.cons.injEq] at h
              obtain ⟨rfl, rfl⟩ := h
              refine ⟨?_, ?_⟩
              · rw [List.cons_append, collapse, collapseFrom_false_cons hc, htrue]
                rfl
              · rw [List.cons_append, collapseFrom_true_cons hc, htrue, words, words,
                  wordsBetween_cons_of_pos hc]
            · rw [Bool.not_eq_true] at hc
              rw [splitWhere_cons_of_neg hc hcs, List.cons.injEq] at h
              obtain ⟨rfl, rfl⟩ := h
              refine ⟨?_, ?_⟩
              · rw [List.cons_append, collapse_cons hc, hfalse, List.cons_append]
              · rw [List.cons_append, collapseFrom_cons hc, hfalse, words,
                  wordsBetween_eq (splitWhere_cons_of_neg hc hcs)]
                simp
  cases h : splitWhere isBlank cs with
  | nil => exact absurd h (splitWhere_ne_nil isBlank cs)
  | cons piece pieces => exact (key h).2.symm

/-! ### Readers -/

/-- The blanks, one by one. -/
def blanks : List Char :=
  [9, 10, 11, 12, 13, 0x20, 0x85, 0xA0, 0x1680, 0x2000, 0x2001, 0x2002, 0x2003, 0x2004, 0x2005, 0x2006,
   0x2007, 0x2008, 0x2009, 0x200A, 0x2028, 0x2029, 0x202F, 0x205F, 0x3000].map Char.ofNat

/-- Every blank is listed. -/
theorem mem_blanks {c : Char} (h : isBlank c = true) : c ∈ blanks := by
  refine List.mem_map.2 ⟨c.toNat, ?_, Char.ofNat_toNat c⟩
  simp only [isBlank, Bool.or_eq_true, Bool.and_eq_true, decide_eq_true_eq, beq_iff_eq] at h
  simp only [List.mem_cons, List.not_mem_nil, or_false]
  omega

/-- A class that none of the blanks is in has no blanks. -/
theorem forall_blank {p : Char → Bool} {b : Bool} (h : (blanks.all fun c => p c == b) = true) :
    ∀ c, isBlank c = true → p c = b :=
  fun c hc => eq_of_beq (List.all_eq_true.1 h c (mem_blanks hc))

/-- A digit is no blank. -/
theorem not_isBlank_of_isDigit {c : Char} (h : c.isDigit = true) : isBlank c = false :=
  not_isBlank_of_ne (forall_blank (by decide)) (Bool.ne_false_iff.2 h)

/-- A run of blanks leaves a blank. -/
theorem exists_isBlank_collapse {cs : List Char} {c : Char} (hmem : c ∈ cs) (hc : isBlank c = true) :
    ∃ d ∈ collapse cs, isBlank d = true := by
  induction cs with
  | nil => exact absurd hmem List.not_mem_nil
  | cons d cs ih =>
      by_cases hd : isBlank d = true
      · rw [collapse, collapseFrom_false_cons hd]
        exact ⟨' ', List.mem_cons_self, isBlank_space⟩
      · rcases List.mem_cons.1 hmem with rfl | hmem
        · exact absurd hc hd
        · obtain ⟨e, he, hblank⟩ := ih hmem
          rw [collapse_cons (Bool.eq_false_iff.2 hd)]
          exact ⟨e, List.mem_cons_of_mem d he, hblank⟩

/-- **Readers.** A reader that accepts no blanks cannot tell a text from the collapsed one. -/
theorem reader_collapse {α : Type} {read : List Char → Option α}
    (h : ∀ cs x, read cs = some x → ∀ c ∈ cs, isBlank c = false) (cs : List Char) :
    read (collapse cs) = read cs := by
  have hnone : ∀ ds, (∃ d ∈ ds, isBlank d = true) → read ds = none := by
    rintro ds ⟨d, hd, hblank⟩
    cases hread : read ds with
    | none => rfl
    | some x =>
        rw [h ds x hread d hd] at hblank
        exact absurd hblank Bool.false_ne_true
  by_cases hblank : ∃ c ∈ cs, isBlank c = true
  · obtain ⟨c, hmem, hc⟩ := hblank
    rw [hnone cs ⟨c, hmem, hc⟩, hnone _ (exists_isBlank_collapse hmem hc)]
  · have hplain : ∀ c ∈ cs, isBlank c = false := by
      intro c hmem
      exact Bool.eq_false_iff.2 fun hc => hblank ⟨c, hmem, hc⟩
    rw [collapse, collapseFrom_of_not_blank hplain]

end FeatureQuery.Text
