import FeatureQuery.Proofs.Term.Grammar
import FeatureQuery.Proofs.Text.Words
import Mathlib.Data.List.TakeWhile

/-!
# Queries without quotes

Without quotes a query can be read word by word. A word is a term or it is none, and only the word `OR` needs
the next one: if that is a term, the two words open an alternative.

## Main results

* `readTest?_iff`, `readSigned?_iff`: what is read at the start of a text is its first word.
* `tokens_of_reading`: a reading of the words of a text gives the terms of the text.
* `tokens_iff_reading`: the terms of a text without quotes are those of its words.
-/

namespace FeatureQuery.Term

open FeatureQuery.Text (isBlank trimStart words)

/-! ### Words that are terms -/

/-- The characters that operators are made of. -/
def operatorChars : List Char :=
  ['=', '<', '>', '!', ':']

/-- A word is a test: of a field, or of a text that has no operator characters and does not start with a
minus. -/
inductive IsTest : List Char → Test → Prop
  | field {name comparison value : List Char} {op : Operator} (hname : IsName name)
      (hcomparison : IsComparison comparison op value) :
      IsTest (name ++ comparison) (.field (String.ofList name) op (String.ofList value))
  | text {word : List Char} (hne : word ≠ []) (hchars : ∀ c ∈ word, c ∉ operatorChars)
      (hminus : word.head? ≠ some '-') : IsTest word (.text (String.ofList word))

/-- A word is a term: a test with an optional minus before it. -/
inductive IsTerm : List Char → Term → Prop
  | plain {word : List Char} {test : Test} (h : IsTest word test) : IsTerm word ⟨false, false, test⟩
  | negated {word : List Char} {test : Test} (h : IsTest word test) :
      IsTerm ('-' :: word) ⟨true, false, test⟩

/-- The terms of some words. The word `OR` and a term after it open an alternative; another `OR` is skipped, and
so is what is no term. -/
inductive Reading : List (List Char) → List Term → Prop
  | nil : Reading [] []
  | opened {word : List Char} {words : List (List Char)} {term : Term} {terms : List Term}
      (hword : word ≠ orWord) (hterm : IsTerm word term) (h : Reading words terms) :
      Reading (orWord :: word :: words) ({ term with startsGroup := true } :: terms)
  | dangling {words : List (List Char)} {terms : List Term}
      (hnext : ∀ word, words.head? = some word → word = orWord ∨ ∀ term, ¬ IsTerm word term)
      (h : Reading words terms) : Reading (orWord :: words) terms
  | term {word : List Char} {words : List (List Char)} {term : Term} {terms : List Term}
      (hword : word ≠ orWord) (hterm : IsTerm word term) (h : Reading words terms) :
      Reading (word :: words) (term :: terms)
  | noise {word : List Char} {words : List (List Char)} {terms : List Term} (hword : word ≠ orWord)
      (hnone : ∀ term, ¬ IsTerm word term) (h : Reading words terms) : Reading (word :: words) terms

/-- No test starts with a minus. -/
theorem IsTest.head_ne {word : List Char} {test : Test} (h : IsTest word test) : word.head? ≠ some '-' := by
  cases h with
  | @field name comparison value op hname hcomparison =>
      cases name with
      | nil => exact absurd hname id
      | cons c cs =>
          rw [List.cons_append, List.head?_cons]
          intro heq
          rw [Option.some.inj heq] at hname
          exact absurd hname.1 (by decide)
  | text hne hchars hminus => exact hminus

theorem Plain.not_isBlank {word : List Char} (h : Plain word) : ∀ c ∈ word, (!isBlank c) = true := by
  intro c hc
  rw [(h c hc).1]
  rfl

/-- Without blanks and quotes, the characters of a text are those that no operator has. -/
theorem Plain.isTextChar_iff {word : List Char} (h : Plain word) :
    (∀ c ∈ word, isTextChar c = true) ↔ ∀ c ∈ word, c ∉ operatorChars := by
  refine forall₂_congr fun c hc => ?_
  obtain ⟨hblank, hquote⟩ := h c hc
  simp [isTextChar, hblank, hquote, operatorChars]

section AtBlank

variable {word rest : List Char} (hword : Plain word) (hrest : atBlank rest = true)
include hword hrest

/-- The first word goes on up to the blank. -/
theorem firstWord_append : firstWord (word ++ rest) = word := by
  rw [firstWord, takeWhile_append_atBlank hrest fun c hc => by rw [hc]; rfl]
  exact List.takeWhile_eq_self_iff.2 hword.not_isBlank

theorem afterWord_append : afterWord (word ++ rest) = rest := by
  rw [afterWord, dropWhile_append_atBlank hrest fun c hc => by rw [hc]; rfl,
    List.dropWhile_eq_nil_iff.2 hword.not_isBlank, List.nil_append]

/-- A text without quotes is a whole word. -/
theorem readBare?_iff {test : Test} {rest' : List Char} :
    readBare? (word ++ rest) = some (test, rest')
      ↔ (word ≠ [] ∧ (∀ c ∈ word, c ∉ operatorChars) ∧ word.head? ≠ some '-'
          ∧ test = .text (String.ofList word)) ∧ rest' = rest := by
  have htake := takeWhile_append_atBlank hrest (fun _ => isTextChar_blank) word
  have hdrop := dropWhile_append_atBlank hrest (fun _ => isTextChar_blank) word
  rw [← hword.isTextChar_iff]
  cases word with
  | nil =>
      obtain ⟨b, bs, rfl, hb⟩ := exists_of_atBlank hrest
      rw [List.nil_append] at htake ⊢
      rw [readBare?, htake]
      simp
  | cons c cs =>
      rw [List.cons_append] at htake hdrop ⊢
      rw [readBare?, htake, hdrop]
      by_cases hall : ∀ d ∈ c :: cs, isTextChar d = true
      · rw [List.takeWhile_eq_self_iff.2 hall, List.dropWhile_eq_nil_iff.2 hall, List.nil_append, hrest,
          Option.ite_none_right_eq_some, Option.some.injEq, Prod.mk.injEq]
        constructor
        · rintro ⟨hminus, rfl, rfl⟩
          exact ⟨⟨List.cons_ne_nil c cs, hall, by simpa using hminus, rfl⟩, rfl⟩
        · rintro ⟨⟨-, -, hminus, rfl⟩, rfl⟩
          exact ⟨by simpa using hminus, rfl, rfl⟩
      · -- The word goes on after the text.
        have hends : atBlank ((c :: cs).dropWhile isTextChar ++ rest) = false := by
          cases hafter : (c :: cs).dropWhile isTextChar with
          | nil => exact absurd (List.dropWhile_eq_nil_iff.1 hafter) hall
          | cons d ds =>
              refine (hword d ((List.dropWhile_sublist isTextChar).subset ?_)).1
              rw [hafter]
              exact List.mem_cons_self
        rw [hends, Bool.and_false, if_neg Bool.false_ne_true]
        exact iff_of_false (by simp) fun h => hall h.1.2.1

/-- A test is a whole word. -/
theorem readTest?_iff {test : Test} {rest' : List Char} :
    readTest? (word ++ rest) = some (test, rest') ↔ IsTest word test ∧ rest' = rest := by
  have hquoted : readQuoted? (word ++ rest) = none := by
    refine readQuoted?_of_head (head?_append_ne hrest (by decide) ?_)
    intro hhead
    exact (hword _ (List.mem_of_mem_head? hhead)).2 rfl
  constructor
  · intro h
    simp only [readTest?, hquoted, Option.orElse_eq_orElse, Option.orElse_eq_or, Option.none_or,
      Option.or_eq_some_iff] at h
    rcases h with hfield | ⟨-, hbare⟩
    · obtain ⟨name, comparison, op, value, rfl, hname, hcomparison, rfl, rfl⟩ :=
        exists_of_readField? hrest hword hfield
      exact ⟨.field hname hcomparison, rfl⟩
    · obtain ⟨⟨hne, hchars, hminus, rfl⟩, rfl⟩ := (readBare?_iff hword hrest).1 hbare
      exact ⟨.text hne hchars hminus, rfl⟩
  · rintro ⟨h, rfl⟩
    cases h with
    | @field name comparison value op hname hcomparison =>
        have hvalue : IsValue value := by
          obtain ⟨spelling, hsplits, -⟩ := hcomparison
          refine IsValue.of_plain fun c hc => hword c (List.mem_append_right name ?_)
          rw [hsplits.eq_append]
          exact List.mem_append_right spelling hc
        rw [readTest?, readField?_append hrest hname hcomparison hvalue]
        rfl
    | text hne hchars hminus =>
        have hfield : readField? (word ++ rest') = none := by
          rw [Option.eq_none_iff_forall_ne_some]
          intro found hfound
          obtain ⟨name, comparison, op, value, rfl, -, hcomparison, -⟩ :=
            exists_of_readField? hrest hword hfound
          obtain ⟨c, cs, rfl, -, hc⟩ := hcomparison.exists_cons
          have htext := hword.isTextChar_iff.2 hchars c (List.mem_append_right name List.mem_cons_self)
          exact Bool.false_ne_true (hc.symm.trans htext)
        rw [readTest?, hfield, hquoted]
        exact (readBare?_iff hword hrest).2 ⟨⟨hne, hchars, hminus, rfl⟩, rfl⟩

/-- A term without the word `OR` before it is a whole word. -/
theorem readSigned?_iff {term : Term} {rest' : List Char} :
    readSigned? (word ++ rest) = some (term, rest')
      ↔ (word ≠ orWord ∧ IsTerm word term) ∧ rest' = rest := by
  by_cases hhead : word.head? = some '-'
  · obtain ⟨word, rfl⟩ := List.head?_eq_some_iff.1 hhead
    have hne : '-' :: word ≠ orWord := by simp [orWord]
    rw [List.cons_append, readSigned?, Option.map_eq_some_iff, and_iff_right hne]
    constructor
    · rintro ⟨⟨test, after⟩, hread, heq⟩
      obtain ⟨rfl, rfl⟩ := Prod.mk.inj heq
      obtain ⟨htest, rfl⟩ := (readTest?_iff (List.forall_mem_cons.1 hword).2 hrest).1 hread
      exact ⟨.negated htest, rfl⟩
    · rintro ⟨hterm, rfl⟩
      cases hterm with
      | plain htest => exact absurd hhead htest.head_ne
      | @negated _ test htest =>
          have hread := (readTest?_iff (List.forall_mem_cons.1 hword).2 hrest).2 ⟨htest, rfl⟩
          exact ⟨(test, rest'), hread, rfl⟩
  · rw [readSigned?_of_head (head?_append_ne hrest (by decide) hhead), firstWord_append hword hrest]
    by_cases hor : word = orWord
    · rw [if_pos hor]
      exact iff_of_false (by simp) fun h => h.1.1 hor
    · rw [if_neg hor, Option.map_eq_some_iff, and_iff_right hor]
      constructor
      · rintro ⟨⟨test, after⟩, hread, heq⟩
        obtain ⟨rfl, rfl⟩ := Prod.mk.inj heq
        obtain ⟨htest, rfl⟩ := (readTest?_iff hword hrest).1 hread
        exact ⟨.plain htest, rfl⟩
      · rintro ⟨hterm, rfl⟩
        cases hterm with
        | @plain _ test htest => exact ⟨(test, rest'), (readTest?_iff hword hrest).2 ⟨htest, rfl⟩, rfl⟩
        | negated htest => exact absurd rfl hhead

/-- What is no term is not read. -/
theorem readSigned?_eq_none (h : word = orWord ∨ ∀ term, ¬ IsTerm word term) :
    readSigned? (word ++ rest) = none := by
  rw [Option.eq_none_iff_forall_ne_some]
  rintro ⟨term, rest'⟩ hread
  obtain ⟨⟨hne, hterm⟩, -⟩ := (readSigned?_iff hword hrest).1 hread
  exact h.elim hne fun hnone => hnone term hterm

theorem readTerm?_of_ne (h : word ≠ orWord) : readTerm? (word ++ rest) = readSigned? (word ++ rest) := by
  rw [readTerm?, firstWord_append hword hrest, if_neg h]

end AtBlank

/-- Whether a word is a term can be found by reading it. -/
theorem isTerm_iff {word : List Char} (hword : Plain word) (hne : word ≠ orWord) {term : Term} :
    IsTerm word term ↔ readSigned? (word ++ [' ']) = some (term, [' ']) := by
  have hrest : atBlank [' '] = true := Text.isBlank_space
  rw [readSigned?_iff hword hrest, and_iff_right hne, and_iff_left rfl]

/-- After the word `OR` a term is read that opens an alternative. -/
theorem readTerm?_orWord {rest : List Char} (hrest : atBlank rest = true) :
    readTerm? (orWord ++ rest)
      = (readSigned? (trimStart rest)).map fun pair => ({ pair.1 with startsGroup := true }, pair.2) := by
  have hplain : Plain orWord := by decide
  rw [readTerm?, firstWord_append hplain hrest, afterWord_append hplain hrest, if_pos rfl]

/-! ### Readings -/

/-- Before the first word of a text without quotes stand blanks, and after it the other words. -/
theorem exists_of_words_eq_cons {cs word : List Char} {rest : List (List Char)} (hquote : '"' ∉ cs)
    (h : words cs = word :: rest) :
    ∃ after, trimStart (cs ++ [' ']) = word ++ (after ++ [' ']) ∧ Plain word
      ∧ atBlank (after ++ [' ']) = true ∧ '"' ∉ after ∧ words after = rest := by
  rcases Text.words_cases cs with
    ⟨-, hnil⟩ | ⟨before, first, after, rfl, hbefore, hne, hfirst, hafter, hwords⟩
  · exact absurd (hnil.symm.trans h).symm (List.cons_ne_nil word rest)
  · obtain ⟨rfl, rfl⟩ := List.cons.inj (hwords.symm.trans h)
    rw [List.mem_append, List.mem_append, not_or, not_or] at hquote
    refine ⟨after, ?_, ?_, ?_, hquote.2.2, rfl⟩
    · rw [List.append_assoc, List.append_assoc, Text.trimStart_blanks_append hbefore]
      obtain ⟨c, first, rfl⟩ := List.exists_cons_of_ne_nil hne
      exact Text.trimStart_eq_self (hfirst c List.mem_cons_self)
    · intro c hc
      refine ⟨hfirst c hc, ?_⟩
      rintro rfl
      exact hquote.2.1 hc
    · cases after with
      | nil => exact Text.isBlank_space
      | cons b after => exact hafter b rfl

/-- A text without words is blank. -/
theorem trimStart_of_words_eq_nil {cs : List Char} (h : words cs = []) : trimStart (cs ++ [' ']) = [] := by
  rcases Text.words_cases cs with ⟨hblank, -⟩ | ⟨before, first, after, -, -, -, -, -, hwords⟩
  · rw [Text.trimStart_blanks_append hblank]
    rfl
  · exact absurd (hwords.symm.trans h) (List.cons_ne_nil _ _)

/-- **Readings.** A reading of the words of a text without quotes gives its terms. -/
theorem tokens_of_reading {cs : List Char} {pieces : List (List Char)} {terms : List Term}
    (h : Reading pieces terms) (hquote : '"' ∉ cs) (hwords : words cs = pieces) :
    tokens (cs ++ [' ']) = terms := by
  induction h generalizing cs with
  | nil => exact tokens_of_nil (trimStart_of_words_eq_nil hwords)
  | @opened word rest term terms hne hterm _ ih =>
      obtain ⟨after, hstart, -, hblank, hquote, hnext⟩ := exists_of_words_eq_cons hquote hwords
      obtain ⟨after, hstart', hplain, hblank', hquote, hrest⟩ := exists_of_words_eq_cons hquote hnext
      have hread : readTerm? (trimStart (cs ++ [' ']))
          = some ({ term with startsGroup := true }, after ++ [' ']) := by
        rw [hstart, readTerm?_orWord hblank, hstart',
          (readSigned?_iff hplain hblank').2 ⟨⟨hne, hterm⟩, rfl⟩, Option.map_some]
      rw [tokens_of_some hread, ih hquote hrest]
  | @dangling rest terms hnext _ ih =>
      obtain ⟨after, hstart, hplain, hblank, hquote, hrest⟩ := exists_of_words_eq_cons hquote hwords
      have hnone : readSigned? (trimStart (after ++ [' '])) = none := by
        cases rest with
        | nil =>
            rw [trimStart_of_words_eq_nil hrest]
            rfl
        | cons word rest =>
            obtain ⟨after', hstart', hplain', hblank', -⟩ := exists_of_words_eq_cons hquote hrest
            rw [hstart', readSigned?_eq_none hplain' hblank' (hnext word rfl)]
      have hread : readTerm? (trimStart (cs ++ [' '])) = none := by
        rw [hstart, readTerm?_orWord hblank, hnone, Option.map_none]
      rw [tokens_of_none hread, hstart, afterWord_append hplain hblank, ih hquote hrest]
  | @term word rest term terms hne hterm _ ih =>
      obtain ⟨after, hstart, hplain, hblank, hquote, hrest⟩ := exists_of_words_eq_cons hquote hwords
      have hread : readTerm? (trimStart (cs ++ [' '])) = some (term, after ++ [' ']) := by
        rw [hstart, readTerm?_of_ne hplain hblank hne,
          (readSigned?_iff hplain hblank).2 ⟨⟨hne, hterm⟩, rfl⟩]
      rw [tokens_of_some hread, ih hquote hrest]
  | @noise word rest terms hne hnone _ ih =>
      obtain ⟨after, hstart, hplain, hblank, hquote, hrest⟩ := exists_of_words_eq_cons hquote hwords
      have hread : readTerm? (trimStart (cs ++ [' '])) = none := by
        rw [hstart, readTerm?_of_ne hplain hblank hne, readSigned?_eq_none hplain hblank (Or.inr hnone)]
      rw [tokens_of_none hread, hstart, afterWord_append hplain hblank, ih hquote hrest]

/-- All words can be read. -/
theorem exists_reading (pieces : List (List Char)) : ∃ terms, Reading pieces terms := by
  induction pieces with
  | nil => exact ⟨[], .nil⟩
  | cons word pieces ih =>
      obtain ⟨terms, hreading⟩ := ih
      by_cases hor : word = orWord
      · subst hor
        -- What was read after the word `OR` is opened by it only if a term comes first.
        cases hreading with
        | nil => exact ⟨[], .dangling (by simp) .nil⟩
        | opened hne hterm h => exact ⟨_, .dangling (by simp) (.opened hne hterm h)⟩
        | dangling hnext h => exact ⟨_, .dangling (by simp) (.dangling hnext h)⟩
        | term hne hterm h => exact ⟨_, .opened hne hterm h⟩
        | @noise next _ _ hne hnone h =>
            refine ⟨_, .dangling ?_ (.noise hne hnone h)⟩
            intro other hother
            rw [List.head?_cons, Option.some.injEq] at hother
            exact Or.inr (hother ▸ hnone)
      · by_cases hterm : ∃ term, IsTerm word term
        · obtain ⟨term, hterm⟩ := hterm
          exact ⟨_, .term hor hterm hreading⟩
        · exact ⟨_, .noise hor (not_exists.1 hterm) hreading⟩

/-- **Queries without quotes.** The terms of a query without quotes are those that reading its words gives. -/
theorem tokens_iff_reading {query : String} (hquote : '"' ∉ query.toList) (terms : List Term) :
    tokens (query.toList ++ [' ']) = terms ↔ Reading (words query.toList) terms := by
  constructor
  · rintro rfl
    obtain ⟨terms, hreading⟩ := exists_reading (words query.toList)
    rwa [tokens_of_reading hreading hquote rfl]
  · intro hreading
    exact tokens_of_reading hreading hquote rfl

/-- A query with an `OR` that opens an alternative, one that does not and one that is no such word, with an
operator that leaves a shorter one its value, and with one that has no value. -/
def noisyQuery : String :=
  "OR OR grid a<= x= -OR"

/-- The terms of this query. -/
def noisyTerms : List Term :=
  [⟨false, true, .text "grid"⟩, ⟨false, false, .field "a" .lt "="⟩, ⟨true, false, .text "OR"⟩]

theorem tokens_iff_reading_noisy :
    '"' ∉ noisyQuery.toList ∧ Reading (words noisyQuery.toList) noisyTerms
      ∧ tokens (noisyQuery.toList ++ [' ']) = noisyTerms := by
  have hquote : '"' ∉ noisyQuery.toList := by decide
  have hwords : words noisyQuery.toList
      = [orWord, orWord, "grid".toList, "a<=".toList, "x=".toList, "-OR".toList] := by decide
  have hgrid : IsTerm "grid".toList ⟨false, false, .text "grid"⟩ :=
    (isTerm_iff (by decide) (by decide)).2 (by decide)
  have hfield : IsTerm "a<=".toList ⟨false, false, .field "a" .lt "="⟩ :=
    (isTerm_iff (by decide) (by decide)).2 (by decide)
  have hnone : ∀ term, ¬ IsTerm "x=".toList term := by
    intro term hterm
    have hread := (isTerm_iff (by decide) (by decide)).1 hterm
    rw [show readSigned? ("x=".toList ++ [' ']) = none by decide] at hread
    exact absurd hread (by simp)
  have hnegated : IsTerm "-OR".toList ⟨true, false, .text "OR"⟩ :=
    (isTerm_iff (by decide) (by decide)).2 (by decide)
  have hreading : Reading (words noisyQuery.toList) noisyTerms := by
    rw [hwords]
    refine .dangling (by simp) (.opened (by decide) hgrid (.term (by decide) hfield ?_))
    exact .noise (by decide) hnone (.term (by decide) hnegated .nil)
  exact ⟨hquote, hreading, (tokens_iff_reading hquote noisyTerms).2 hreading⟩

end FeatureQuery.Term
