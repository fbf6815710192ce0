import FeatureQuery.Text.Blank
import Mathlib.Data.List.Basic

/-!
# Trimmed texts

A text is tight if no blank stands at either end. Trimming finds the tight part of a text between the blanks
around it, and there is only one such part.

## Main results

* `exists_trim`: a text is its trimmed part with blanks around it.
* `trim_padded`: a tight text is found between blanks.
* `trim_around`: trimming a text on either side of a tight part of it.
-/

namespace FeatureQuery.Text

/-- Nothing but blanks. -/
def Blanks (cs : List Char) : Prop :=
  ∀ c ∈ cs, isBlank c = true

/-- No blank stands at either end. -/
structure Tight (cs : List Char) : Prop where
  head : ∀ c, cs.head? = some c → isBlank c = false
  last : ∀ c, cs.getLast? = some c → isBlank c = false

theorem blanks_nil : Blanks [] :=
  fun _ hc => absurd hc List.not_mem_nil

theorem tight_nil : Tight [] where
  head _ hc := nomatch hc
  last _ hc := nomatch hc

/-- Some of the characters of a blank text are blank. -/
theorem Blanks.of_sublist {cs ds : List Char} (h : Blanks ds) (hsub : cs.Sublist ds) : Blanks cs :=
  fun c hc => h c (hsub.subset hc)

/-- A blank text is blank from its end as well. -/
theorem blanks_reverse {cs : List Char} (h : Blanks cs) : Blanks cs.reverse :=
  fun c hc => h c (List.mem_reverse.1 hc)

/-! ### At the start -/

/-- Blanks at the start are taken off. -/
theorem trimStart_blanks_append {before : List Char} (h : Blanks before) (cs : List Char) :
    trimStart (before ++ cs) = trimStart cs :=
  List.dropWhile_append_of_pos h

/-- What is dropped from the start is blank. -/
theorem exists_trimStart (cs : List Char) : ∃ before, Blanks before ∧ cs = before ++ trimStart cs :=
  ⟨cs.takeWhile isBlank, List.all_eq_true.1 List.all_takeWhile, List.takeWhile_append_dropWhile.symm⟩

/-- A text that does not start with a blank stays as it is. -/
theorem trimStart_of_head {cs : List Char} (h : ∀ c, cs.head? = some c → isBlank c = false) :
    trimStart cs = cs := by
  cases cs with
  | nil => rfl
  | cons c cs => exact trimStart_eq_self (h c rfl)

/-- No blank is left at the start. -/
theorem head_trimStart (cs : List Char) : ∀ c, (trimStart cs).head? = some c → isBlank c = false := by
  intro c hc
  cases h : trimStart cs with
  | nil => exact absurd hc (by simp [h])
  | cons d rest =>
      rw [h, List.head?_cons, Option.some.injEq] at hc
      exact hc ▸ not_isBlank_of_trimStart_eq_cons h

/-- What stands after the blanks is kept if it does not start with one. -/
theorem trimStart_append_of_head {ds : List Char} (h : ∀ c, ds.head? = some c → isBlank c = false)
    (cs : List Char) : trimStart (cs ++ ds) = trimStart cs ++ ds := by
  obtain ⟨before, hbefore, heq⟩ := exists_trimStart cs
  have hhead : ∀ c, (trimStart cs ++ ds).head? = some c → isBlank c = false := by
    intro c hc
    rw [List.head?_append, Option.or_eq_some_iff] at hc
    rcases hc with hc | ⟨-, hc⟩
    · exact head_trimStart cs c hc
    · exact h c hc
  have hblanks := trimStart_blanks_append hbefore (trimStart cs ++ ds)
  rwa [← List.append_assoc, ← heq, trimStart_of_head hhead] at hblanks

/-! ### At the end -/

/-- Trimming the end is trimming the start of the reversed text. -/
theorem trimEnd_eq (cs : List Char) : trimEnd cs = (trimStart cs.reverse).reverse := rfl

/-- Blanks at the end are taken off. -/
theorem trimEnd_append_blanks {after : List Char} (h : Blanks after) (cs : List Char) :
    trimEnd (cs ++ after) = trimEnd cs := by
  rw [trimEnd_eq, List.reverse_append, trimStart_blanks_append (blanks_reverse h), trimEnd_eq]

/-- What is dropped from the end is blank. -/
theorem exists_trimEnd (cs : List Char) : ∃ after, Blanks after ∧ cs = trimEnd cs ++ after := by
  obtain ⟨before, hblank, heq⟩ := exists_trimStart cs.reverse
  refine ⟨before.reverse, blanks_reverse hblank, ?_⟩
  rw [trimEnd_eq, ← List.reverse_append, ← heq, List.reverse_reverse]

/-- A text that does not end with a blank stays as it is. -/
theorem trimEnd_of_last {cs : List Char} (h : ∀ c, cs.getLast? = some c → isBlank c = false) :
    trimEnd cs = cs := by
  rw [trimEnd_eq, trimStart_of_head fun c hc => h c (by rwa [List.head?_reverse] at hc),
    List.reverse_reverse]

/-- No blank is left at the end. -/
theorem last_trimEnd (cs : List Char) : ∀ c, (trimEnd cs).getLast? = some c → isBlank c = false := by
  intro c hc
  rw [trimEnd_eq, List.getLast?_reverse] at hc
  exact head_trimStart cs.reverse c hc

/-- What stands before the blanks is kept if it does not end in one. -/
theorem trimEnd_append_of_last {cs : List Char} (h : ∀ c, cs.getLast? = some c → isBlank c = false)
    (ds : List Char) : trimEnd (cs ++ ds) = cs ++ trimEnd ds := by
  obtain ⟨after, hafter, heq⟩ := exists_trimEnd ds
  have hlast : ∀ c, (cs ++ trimEnd ds).getLast? = some c → isBlank c = false := by
    intro c hc
    rw [List.getLast?_append, Option.or_eq_some_iff] at hc
    rcases hc with hc | ⟨-, hc⟩
    · exact last_trimEnd ds c hc
    · exact h c hc
  have hblanks := trimEnd_append_blanks hafter (cs ++ trimEnd ds)
  rwa [List.append_assoc, ← heq, trimEnd_of_last hlast] at hblanks

/-! ### At both ends -/

/-- A tight text is found between blanks. -/
theorem trim_padded {before cs after : List Char} (hbefore : Blanks before) (hcs : Tight cs)
    (hafter : Blanks after) : trim (before ++ (cs ++ after)) = cs := by
  rw [trim, trimStart_blanks_append hbefore]
  cases cs with
  | nil =>
      rw [List.nil_append]
      have hblank : Blanks (trimStart after) := hafter.of_sublist (List.dropWhile_sublist _)
      have hnone := trimEnd_append_blanks hblank []
      rwa [List.nil_append] at hnone
  | cons c cs =>
      rw [List.cons_append, trimStart_eq_self (hcs.head c rfl), ← List.cons_append,
        trimEnd_append_blanks hafter, trimEnd_of_last hcs.last]

/-- A text without blanks at its ends stays as it is. -/
theorem trim_of_tight {cs : List Char} (h : Tight cs) : trim cs = cs := by
  have hpadded := trim_padded blanks_nil h blanks_nil
  rwa [List.append_nil, List.nil_append] at hpadded

/-- Nothing is left of blanks. -/
theorem trim_of_blanks {cs : List Char} (h : Blanks cs) : trim cs = [] := by
  have hpadded := trim_padded h tight_nil blanks_nil
  rwa [List.append_nil, List.append_nil] at hpadded

/-- A trimmed text is tight. -/
theorem tight_trim (cs : List Char) : Tight (trim cs) where
  head c hc := by
    obtain ⟨after, -, heq⟩ := exists_trimEnd (trimStart cs)
    refine head_trimStart cs c ?_
    rw [trim] at hc
    rw [heq]
    cases h : trimEnd (trimStart cs) with
    | nil => exact absurd hc (by simp [h])
    | cons d rest => rwa [h] at hc
  last := last_trimEnd (trimStart cs)

/-- A text is its trimmed part with blanks around it. -/
theorem exists_trim (cs : List Char) :
    ∃ before after, Blanks before ∧ Blanks after ∧ cs = before ++ (trim cs ++ after) := by
  obtain ⟨before, hbefore, hstart⟩ := exists_trimStart cs
  obtain ⟨after, hafter, hend⟩ := exists_trimEnd (trimStart cs)
  exact ⟨before, after, hbefore, hafter, by rw [trim, ← hend, ← hstart]⟩

/-- Trimming the start only leaves blanks at the end. -/
theorem exists_trimStart_eq (cs : List Char) :
    ∃ after, Blanks after ∧ trimStart cs = trim cs ++ after :=
  exists_trimEnd (trimStart cs)

/-- Trimming the end only leaves blanks at the start. -/
theorem exists_trimEnd_eq (cs : List Char) : ∃ before, Blanks before ∧ trimEnd cs = before ++ trim cs := by
  obtain ⟨before, after, hbefore, hafter, heq⟩ := exists_trim cs
  have hend := trimEnd_append_blanks hafter (before ++ trim cs)
  rw [List.append_assoc, ← heq] at hend
  by_cases hne : trim cs = []
  · have hnone := trimEnd_append_blanks hbefore []
    rw [List.nil_append] at hnone
    rw [hne, List.append_nil, hnone] at hend
    exact ⟨[], blanks_nil, by rw [hend, hne]; rfl⟩
  · refine ⟨before, hbefore, hend.trans (trimEnd_of_last fun c hc => (tight_trim cs).last c ?_)⟩
    rwa [List.getLast?_append_of_ne_nil _ hne] at hc

/-- A text with no blank at its ends keeps what stands around it apart. -/
theorem trim_around {ds : List Char} (h : Tight ds) (hne : ds ≠ []) (cs es : List Char) :
    trim (cs ++ (ds ++ es)) = trimStart cs ++ (ds ++ trimEnd es) := by
  have hhead : ∀ c, (ds ++ es).head? = some c → isBlank c = false := by
    intro c hc
    rw [List.head?_append_of_ne_nil _ hne] at hc
    exact h.head c hc
  have hlast : ∀ c, (trimStart cs ++ ds).getLast? = some c → isBlank c = false := by
    intro c hc
    rw [List.getLast?_append_of_ne_nil _ hne] at hc
    exact h.last c hc
  rw [trim, trimStart_append_of_head hhead, ← List.append_assoc, trimEnd_append_of_last hlast,
    List.append_assoc]

end FeatureQuery.Text
