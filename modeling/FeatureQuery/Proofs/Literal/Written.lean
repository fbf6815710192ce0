import FeatureQuery.Literal.Reader
import FeatureQuery.Proofs.Text.Words
import Mathlib.Data.Option.Basic

/-!
# How dates and milestones are written

A relative literal is one of two words, alone or with a shift after it: a sign, digits and, after `now`, a unit.
A date is a year, a month and a day with hyphens between them. No text is written in both ways, so that a text
that stands for itself is one that is written in neither, or one whose date or milestone does not exist.

## Main results

* `readRelative?_eq_some_iff`, `readDate?_eq_some_iff`: the readers read what is written so.
* `scalar_of_denotes`, `scalar_eq_text_iff`: the literal of an item is the date or the milestone that it denotes,
  and the text itself exactly if it denotes none.
-/

namespace FeatureQuery.Literal

open FeatureQuery.Number (readNat?)
open FeatureQuery.Text (isDecimalDigit trim)
open FeatureQuery.Time (Instant)

/-! ### Relative literals -/

/-- A text goes on after a word exactly if it starts with the word. -/
theorem after?_eq_some_iff {word cs rest : List Char} : after? word cs = some rest ↔ cs = word ++ rest := by
  rw [after?]
  constructor
  · intro h
    split at h
    · next hstarts =>
        obtain ⟨tail, rfl⟩ := List.isPrefixOf_iff_prefix.1 hstarts
        rw [List.drop_left, Option.some.injEq] at h
        rw [h]
    · exact absurd h (by simp)
  · rintro rfl
    rw [if_pos (List.isPrefixOf_iff_prefix.2 (List.prefix_append word rest)), List.drop_left]

/-- A sign with digits after it, which shifts forward or back. -/
structure IsShift (sign : Char) (forward : Bool) (amount : List Char) : Prop where
  sign : readSign? sign = some forward
  ne_nil : amount ≠ []
  digits : ∀ c ∈ amount, isDecimalDigit c = true

/-- A shift goes on up to the first character that is no digit. -/
theorem readShift?_eq_some_iff {cs amount rest : List Char} {forward : Bool} :
    readShift? cs = some (forward, amount, rest)
      ↔ ∃ sign, IsShift sign forward amount ∧ cs = sign :: (amount ++ rest)
          ∧ ∀ c, rest.head? = some c → isDecimalDigit c = false := by
  constructor
  · intro h
    cases cs with
    | nil => exact absurd h (by simp [readShift?])
    | cons sign cs =>
        simp only [readShift?, Option.bind_eq_bind, Option.bind_eq_some_iff] at h
        obtain ⟨positive, hsign, h⟩ := h
        split at h
        · exact absurd h (by simp)
        · next hne =>
            simp only [pure, Option.some.injEq, Prod.mk.injEq] at h
            obtain ⟨rfl, rfl, rfl⟩ := h
            refine ⟨sign, ⟨hsign, fun hnil => hne (List.isEmpty_iff.2 hnil),
              List.all_eq_true.1 List.all_takeWhile⟩, by rw [List.takeWhile_append_dropWhile], fun c hc => ?_⟩
            have hhead := List.head?_dropWhile_not isDecimalDigit cs
            rw [hc] at hhead
            simpa using hhead
  · rintro ⟨sign, hshift, rfl, hrest⟩
    have htake : (amount ++ rest).takeWhile isDecimalDigit = amount := by
      rw [List.takeWhile_append_of_pos hshift.digits]
      cases rest with
      | nil => simp
      | cons c rest => rw [List.takeWhile_cons_of_neg (by simp [hrest c rfl]), List.append_nil]
    have hdrop : (amount ++ rest).dropWhile isDecimalDigit = rest := by
      rw [List.dropWhile_append_of_pos hshift.digits]
      cases rest with
      | nil => rfl
      | cons c rest => rw [List.dropWhile_cons_of_neg (by simp [hrest c rfl])]
    rw [readShift?, hshift.sign, htake, hdrop]
    simp [hshift.ne_nil]

/-- How relative literals are written. -/
inductive Relative.Written : Relative → List Char → Prop
  | now : Written (.now true ['0'] false) ['n', 'o', 'w']
  | days {sign : Char} {later : Bool} {amount : List Char} (h : IsShift sign later amount) :
      Written (.now later amount false) (['n', 'o', 'w'] ++ sign :: (amount ++ ['d']))
  | weeks {sign : Char} {later : Bool} {amount : List Char} (h : IsShift sign later amount) :
      Written (.now later amount true) (['n', 'o', 'w'] ++ sign :: (amount ++ ['w']))
  | stable : Written (.stable true ['0']) "current_stable".toList
  | milestones {sign : Char} {higher : Bool} {amount : List Char} (h : IsShift sign higher amount) :
      Written (.stable higher amount) ("current_stable".toList ++ sign :: amount)

/-- What is read as a relative date is written like one. -/
theorem Relative.Written.of_readRelativeDate? {cs : List Char} {relative : Relative}
    (h : readRelativeDate? cs = some relative) : relative.Written cs := by
  simp only [readRelativeDate?, Option.bind_eq_bind, Option.bind_eq_some_iff, after?_eq_some_iff] at h
  obtain ⟨rest, rfl, h⟩ := h
  split at h
  · next hempty =>
      obtain rfl := Option.some.inj h
      rw [List.isEmpty_iff.1 hempty, List.append_nil]
      exact .now
  · simp only [Option.bind_eq_some_iff] at h
    obtain ⟨⟨later, amount, unit⟩, hread, h⟩ := h
    obtain ⟨sign, hshift, rfl, -⟩ := readShift?_eq_some_iff.1 hread
    split at h
    · next heq =>
        obtain ⟨rfl, rfl, rfl⟩ := heq
        obtain rfl := Option.some.inj h
        exact .days hshift
    · next heq =>
        obtain ⟨rfl, rfl, rfl⟩ := heq
        obtain rfl := Option.some.inj h
        exact .weeks hshift
    · exact absurd h (by simp)

/-- What is read as a relative milestone is written like one. -/
theorem Relative.Written.of_readRelativeMilestone? {cs : List Char} {relative : Relative}
    (h : readRelativeMilestone? cs = some relative) : relative.Written cs := by
  simp only [readRelativeMilestone?, Option.bind_eq_bind, Option.bind_eq_some_iff, after?_eq_some_iff] at h
  obtain ⟨rest, rfl, h⟩ := h
  split at h
  · next hempty =>
      obtain rfl := Option.some.inj h
      rw [List.isEmpty_iff.1 hempty, List.append_nil]
      exact .stable
  · simp only [Option.bind_eq_some_iff] at h
    obtain ⟨⟨higher, amount, unit⟩, hread, h⟩ := h
    obtain ⟨sign, hshift, rfl, -⟩ := readShift?_eq_some_iff.1 hread
    split at h
    · next heq =>
        obtain ⟨rfl, rfl, rfl⟩ := heq
        obtain rfl := Option.some.inj h
        rw [List.append_nil]
        exact .milestones hshift
    · exact absurd h (by simp)

/-- **Relative literals** are read where they are written. -/
theorem readRelative?_eq_some_iff {cs : List Char} {relative : Relative} :
    readRelative? cs = some relative ↔ relative.Written cs := by
  rw [readRelative?, Option.orElse_eq_some]
  constructor
  · rintro (hdate | ⟨-, hmilestone⟩)
    · exact .of_readRelativeDate? hdate
    · exact .of_readRelativeMilestone? hmilestone
  · have hafter : ∀ word rest : List Char, after? word (word ++ rest) = some rest :=
      fun word rest => after?_eq_some_iff.2 rfl
    have hunit : ∀ {sign later amount} (unit : Char), IsShift sign later amount → isDecimalDigit unit = false →
        readShift? (sign :: (amount ++ [unit])) = some (later, amount, [unit]) := by
      intro sign later amount unit hshift hno
      refine readShift?_eq_some_iff.2 ⟨sign, hshift, rfl, fun c hc => ?_⟩
      rwa [← Option.some.inj hc]
    intro h
    cases h with
    | now => exact Or.inl rfl
    | days hshift =>
        left
        rw [readRelativeDate?, hafter]
        simp [hunit 'd' hshift (by decide)]
    | weeks hshift =>
        left
        rw [readRelativeDate?, hafter]
        simp [hunit 'w' hshift (by decide)]
    | stable => exact Or.inr ⟨rfl, rfl⟩
    | @milestones sign higher amount hshift =>
        have hread : readShift? (sign :: amount) = some (higher, amount, []) :=
          readShift?_eq_some_iff.2 ⟨sign, hshift, by rw [List.append_nil], fun c hc => absurd hc (by simp)⟩
        refine Or.inr ⟨rfl, ?_⟩
        rw [readRelativeMilestone?, hafter]
        simp [hread]

/-- A relative literal denotes an instant or an integer. -/
theorem Relative.toLiteral?_cases {context : Context} {relative : Relative} {l : Literal}
    (h : relative.toLiteral? context = some l) : (∃ t, l = .instant t) ∨ ∃ n, l = .int n := by
  cases relative with
  | now later amount weeks =>
      simp only [toLiteral?, Option.bind_eq_bind, Option.bind_eq_some_iff, pure, Option.some.injEq] at h
      obtain ⟨_, -, t, -, rfl⟩ := h
      exact Or.inl ⟨t, rfl⟩
  | stable higher amount =>
      simp only [toLiteral?, Option.bind_eq_bind, Option.bind_eq_some_iff, pure, Option.some.injEq] at h
      obtain ⟨_, -, _, -, n, -, rfl⟩ := h
      exact Or.inr ⟨n, rfl⟩

/-! ### Dates -/

/-- How dates are written: a year, a month and a day, of which the year has four digits and the others have one or
two. -/
inductive DateWritten : Time.Date → List Char → Prop
  | intro {year month day : List Char} {y m d : Nat} (hyear : readNat? year = some y) (hmonth : readNat? month = some m)
      (hday : readNat? day = some d) (hlengths : year.length = 4 ∧ month.length ≤ 2 ∧ day.length ≤ 2) :
      DateWritten ⟨y, m, d⟩ (year ++ '-' :: (month ++ '-' :: day))

/-- No hyphen stands in a number. -/
theorem not_hyphen_of_readNat? {cs : List Char} {n : Nat} (h : readNat? cs = some n) :
    ∀ c ∈ cs, (c == '-') = false := by
  intro c hc
  have hdigit := (Number.readNat?_eq_some_iff.1 h).2.1 c hc
  rw [beq_eq_false_iff_ne]
  rintro rfl
  exact absurd hdigit (by decide)

/-- **Dates** are read where they are written, if they exist. -/
theorem readDate?_eq_some_iff {cs : List Char} {t : Instant} :
    readDate? cs = some t ↔ ∃ date, DateWritten date cs ∧ Instant.midnight? date = some t := by
  constructor
  · intro h
    rw [readDate?] at h
    split at h
    · next year month day hpieces =>
        split at h
        · next hlengths =>
            simp only [Option.bind_eq_bind, Option.bind_eq_some_iff] at h
            obtain ⟨y, hyear, m, hmonth, d, hday, hmidnight⟩ := h
            have hcs := Text.joinWith_splitWhere '-' cs
            rw [hpieces] at hcs
            have hjoin : cs = year ++ '-' :: (month ++ '-' :: day) := by
              rw [← hcs]
              simp [Text.joinWith]
            exact ⟨⟨y, m, d⟩, hjoin ▸ ⟨hyear, hmonth, hday, hlengths⟩, hmidnight⟩
        · exact absurd h (by simp)
    · exact absurd h (by simp)
  · rintro ⟨date, ⟨hyear, hmonth, hday, hlengths⟩, hmidnight⟩
    rw [readDate?, Text.splitWhere_append (not_hyphen_of_readNat? hyear) (by decide),
      Text.splitWhere_append (not_hyphen_of_readNat? hmonth) (by decide),
      Text.splitWhere_of_forall (not_hyphen_of_readNat? hday)]
    dsimp only
    rw [if_pos hlengths, hyear, hmonth, hday]
    exact hmidnight

/-! ### Scalars -/

/-- What texts denote in a context, if they do not stand for themselves. -/
inductive Denotes (context : Context) : List Char → Literal → Prop
  | relative {cs : List Char} {relative : Relative} {l : Literal} (hwritten : relative.Written cs)
      (hl : relative.toLiteral? context = some l) : Denotes context cs l
  | date {cs : List Char} {date : Time.Date} {t : Instant} (hwritten : DateWritten date cs)
      (ht : Instant.midnight? date = some t) : Denotes context cs (.instant t)

/-- A relative literal starts with the letter of its word. -/
theorem Relative.Written.head? {relative : Relative} {cs : List Char} (h : relative.Written cs) :
    cs.head? = some 'n' ∨ cs.head? = some 'c' := by
  cases h with
  | now => exact Or.inl rfl
  | days _ => exact Or.inl rfl
  | weeks _ => exact Or.inl rfl
  | stable => exact Or.inr rfl
  | milestones _ => exact Or.inr rfl

/-- A date starts with a digit, so it is no relative literal. -/
theorem DateWritten.readRelative?_eq_none {date : Time.Date} {cs : List Char} (h : DateWritten date cs) :
    readRelative? cs = none := by
  obtain ⟨hyear, -, -, -⟩ := h
  obtain ⟨hne, hdigits, -⟩ := Number.readNat?_eq_some_iff.1 hyear
  rw [Option.eq_none_iff_forall_ne_some]
  intro relative hrelative
  obtain ⟨c, year, rfl⟩ := List.exists_cons_of_ne_nil hne
  have hdigit := hdigits c List.mem_cons_self
  rcases (readRelative?_eq_some_iff.1 hrelative).head? with hhead | hhead
  · rw [Option.some.inj hhead] at hdigit
    exact absurd hdigit (by decide)
  · rw [Option.some.inj hhead] at hdigit
    exact absurd hdigit (by decide)

/-- A text denotes an instant or an integer. -/
theorem Denotes.cases {context : Context} {cs : List Char} {l : Literal} (h : Denotes context cs l) :
    (∃ t, l = .instant t) ∨ ∃ n, l = .int n := by
  cases h with
  | relative _ hl => exact Relative.toLiteral?_cases hl
  | date _ _ => exact Or.inl ⟨_, rfl⟩

section Scalars

variable {context : Context} {cs : List Char}

/-- The literal of an item that denotes something. -/
theorem scalar_of_denotes {l : Literal} (h : Denotes context cs l) (hplain : unquote (trim cs) = cs) :
    scalar context cs = l := by
  rw [scalar, hplain]
  cases h with
  | relative hwritten hl =>
      rw [readRelative?_eq_some_iff.2 hwritten]
      dsimp only
      rw [hl, Option.getD_some]
  | @date date t hwritten ht =>
      rw [hwritten.readRelative?_eq_none]
      dsimp only
      rw [readDate?_eq_some_iff.2 ⟨date, hwritten, ht⟩, Option.elim_some]

/-- **Scalars.** The literal of an item is the item itself exactly if this denotes nothing else. -/
theorem scalar_eq_text_iff (hplain : unquote (trim cs) = cs) :
    scalar context cs = .text (String.ofList cs) ↔ ¬ ∃ l, Denotes context cs l := by
  constructor
  · rintro htext ⟨l, h⟩
    rw [scalar_of_denotes h hplain] at htext
    rcases h.cases with ⟨t, rfl⟩ | ⟨n, rfl⟩
    · exact absurd htext (by simp)
    · exact absurd htext (by simp)
  · intro hnone
    rw [scalar, hplain]
    cases hread : readRelative? cs with
    | some relative =>
        cases hl : relative.toLiteral? context with
        | none =>
            dsimp only
            rw [hl, Option.getD_none]
        | some l => exact absurd ⟨l, .relative (readRelative?_eq_some_iff.1 hread) hl⟩ hnone
    | none =>
        cases hdate : readDate? cs with
        | none => rfl
        | some t =>
            obtain ⟨date, hwritten, ht⟩ := readDate?_eq_some_iff.1 hdate
            exact absurd ⟨_, .date hwritten ht⟩ hnone

end Scalars

end FeatureQuery.Literal
