import FeatureQuery.Proofs.Term.Grammar

/-!
# Written terms

A term is written as it is displayed, with a text in quotes. What is written is read back, whatever terms
stand before and after it: each is followed by a blank, and no written test is the word that opens an
alternative.

A test of a field with `<` or `>` whose value starts with `=` would be read with `<=` or `>=`, unless this
leaves no value.

## Main results

* `readTest?_written`, `readTerm?_written`: one written test or term is read back.
* `tokens_written`: written terms are read back.
-/

namespace FeatureQuery

open FeatureQuery.Text (isBlank trimStart)

/-! ### Writing -/

/-- The test with its text in quotes. -/
def Test.quoted : Test → Test
  | .field name op raw => .field name op raw
  | .text content => .text (String.ofList ('"' :: (content.toList ++ ['"'])))

theorem Test.display_quoted_field (name : String) (op : Operator) (raw : String) :
    (Test.field name op raw).quoted.display.toList
      = name.toList ++ (op.symbol.toList ++ raw.toList) := by
  rw [quoted, display, String.toList_append, String.toList_append, List.append_assoc]

theorem Test.display_quoted_text (content : String) :
    (Test.text content).quoted.display.toList = '"' :: (content.toList ++ ['"']) := by
  rw [quoted, display, String.toList_ofList]

/-- How a term is written: as it is displayed, with its text in quotes. -/
def Term.written (term : Term) : String :=
  { term with test := term.test.quoted }.display

/-- The tests that can be written. -/
inductive Test.Writable : Test → Prop
  | field {name : String} {op : Operator} {raw : String} (hname : Term.IsName name.toList)
      (hvalue : Term.IsValue raw.toList) (hne : raw ≠ "")
      (hop : op = .lt ∨ op = .gt → raw.toList.head? = some '=' → raw = "=") :
      Writable (.field name op raw)
  | text {content : String} (hne : content ≠ "") (hquote : '"' ∉ content.toList) : Writable (.text content)

namespace Term

/-! ### Tests -/

/-- Only `<` and `>` start longer operators, which go on with `=`. -/
theorem eq_append_of_longer {op : Operator} {entry : List Char × Operator} (hentry : entry ∈ spellings)
    (hstarts : op.symbol.toList <+: entry.1) (hlonger : op.symbol.toList.length < entry.1.length) :
    (op = .lt ∨ op = .gt) ∧ entry.1 = op.symbol.toList ++ ['='] := by
  have hall : ∀ entry ∈ spellings, op.symbol.toList.isPrefixOf entry.1 = true →
      op.symbol.toList.length < entry.1.length →
      (op = .lt ∨ op = .gt) ∧ entry.1 = op.symbol.toList ++ ['='] := by
    cases op <;> decide
  exact hall entry hentry (List.isPrefixOf_iff_prefix.2 hstarts) hlonger

/-- An operator with a value after it is read as this operator, unless it goes on with the value. -/
theorem isComparison_symbol {op : Operator} {value : List Char} (hne : value ≠ [])
    (hop : op = .lt ∨ op = .gt → value.head? = some '=' → value = ['=']) :
    IsComparison (op.symbol.toList ++ value) op value := by
  refine ⟨op.symbol.toList, ⟨by rw [String.ofList_toList, Operator.ofSymbol?_symbol], rfl, hne⟩, ?_⟩
  intro other op' value' hother
  refine Nat.not_lt.1 fun hlonger => ?_
  have hstarts : op.symbol.toList <+: other :=
    List.prefix_of_prefix_length_le (List.prefix_append _ _) ⟨value', hother.eq_append.symm⟩
      (Nat.le_of_lt hlonger)
  obtain ⟨hgoes, hspelling⟩ := eq_append_of_longer (mem_spellings_iff.2 hother.spelled) hstarts hlonger
  have hvalue : value = '=' :: value' := by
    have heq := hother.eq_append
    rw [show other = op.symbol.toList ++ ['='] from hspelling, List.append_assoc] at heq
    exact List.append_cancel_left heq
  have hsole := hop hgoes (by rw [hvalue]; rfl)
  exact hother.ne_nil (List.cons.inj (hvalue.symm.trans hsole)).2

section AtBlank

variable {rest : List Char} (hrest : atBlank rest = true)
include hrest

/-- A text in quotes is read as it stands. -/
theorem readTest?_quotes {content : List Char} (hne : content ≠ []) (hquote : '"' ∉ content) :
    readTest? ('"' :: (content ++ '"' :: rest)) = some (.text (String.ofList content), rest) := by
  have hfield : readField? ('"' :: (content ++ '"' :: rest)) = none := by
    rw [readField?_cons]
    rfl
  have hplain : ∀ c ∈ content, (c != '"') = true := by
    intro c hc
    rw [bne_iff_ne]
    rintro rfl
    exact hquote hc
  have htake : (content ++ '"' :: rest).takeWhile (· != '"') = content := by
    rw [List.takeWhile_append_of_pos hplain, List.takeWhile_cons_of_neg (by decide), List.append_nil]
  have hdrop : (content ++ '"' :: rest).dropWhile (· != '"') = '"' :: rest := by
    rw [List.dropWhile_append_of_pos hplain, List.dropWhile_cons_of_neg (by decide)]
  rw [readTest?, hfield, readQuoted?, htake, hdrop]
  simp [hrest, hne]

/-- **Tests.** A written test is read back. -/
theorem readTest?_written {test : Test} (h : test.Writable) :
    readTest? (test.quoted.display.toList ++ rest) = some (test, rest) := by
  cases h with
  | @field name op raw hname hvalue hne hop =>
      have hcomparison : IsComparison (op.symbol.toList ++ raw.toList) op raw.toList := by
        refine isComparison_symbol (by simpa using hne) ?_
        intro hgoes hhead
        rw [hop hgoes hhead]
        rfl
      rw [Test.display_quoted_field, readTest?, readField?_append hrest hname hcomparison hvalue,
        String.ofList_toList, String.ofList_toList]
      rfl
  | @text content hne hquote =>
      have hread := readTest?_quotes hrest (show content.toList ≠ [] by simpa using hne) hquote
      rw [Test.display_quoted_text, List.cons_append, List.append_assoc, List.singleton_append, hread,
        String.ofList_toList]

end AtBlank

/-! ### First words -/

/-- A first word with another character in it is not the one that opens an alternative. -/
theorem firstWord_ne_orWord {c : Char} (hc : isBlank c = false) (hother : c ∉ orWord) {before : List Char}
    (hbefore : ∀ d ∈ before, isBlank d = false) (after : List Char) :
    firstWord (before ++ c :: after) ≠ orWord := by
  have hplain : ∀ d ∈ before, (!isBlank d) = true := by
    intro d hd
    rw [hbefore d hd]
    rfl
  intro heq
  rw [firstWord, List.takeWhile_append_of_pos hplain, List.takeWhile_cons_of_pos (by rw [hc]; rfl)] at heq
  refine hother ?_
  rw [← heq]
  exact List.mem_append_right before List.mem_cons_self

/-- A name has no blanks. -/
theorem IsName.not_isBlank {name : List Char} (h : IsName name) : ∀ c ∈ name, isBlank c = false := by
  intro c hc
  refine Text.not_isBlank_of_ne isNameChar_blank ?_
  rw [h.isNameChar c hc]
  decide

/-- No written test is the word that opens an alternative. -/
theorem firstWord_written {test : Test} (h : test.Writable) (rest : List Char) :
    firstWord (test.quoted.display.toList ++ rest) ≠ orWord := by
  cases h with
  | @field name op raw hname hvalue hne hop =>
      obtain ⟨c, cs, hsymbol, hc, hother⟩ :
          ∃ c cs, op.symbol.toList = c :: cs ∧ isBlank c = false ∧ c ∉ orWord := by
        cases op <;> exact ⟨_, _, rfl, by decide, by decide⟩
      rw [Test.display_quoted_field, hsymbol, List.append_assoc, List.cons_append, List.cons_append]
      exact firstWord_ne_orWord hc hother hname.not_isBlank _
  | @text content hne hquote =>
      rw [Test.display_quoted_text, List.cons_append]
      exact firstWord_ne_orWord (by decide) (by decide) (List.forall_mem_nil _) _

/-- A written test starts with a letter or a quote. -/
theorem head_written {test : Test} (h : test.Writable) :
    ∃ c cs, test.quoted.display.toList = c :: cs ∧ isBlank c = false ∧ c ≠ '-' := by
  cases h with
  | @field name op raw hname hvalue hne hop =>
      rw [Test.display_quoted_field]
      cases hchars : name.toList with
      | nil =>
          rw [hchars] at hname
          exact absurd hname id
      | cons c cs =>
          rw [hchars] at hname
          have hc := hname.not_isBlank c List.mem_cons_self
          refine ⟨c, cs ++ (op.symbol.toList ++ raw.toList), rfl, hc, ?_⟩
          rintro rfl
          exact absurd hname.1 (by decide)
  | @text content hne hquote =>
      exact ⟨'"', content.toList ++ ['"'], Test.display_quoted_text content, by decide, by decide⟩

/-! ### Terms -/

/-- The minus of a negated term. -/
def sign (negated : Bool) : List Char :=
  if negated then ['-'] else []

/-- What is written for a term: the mark of an alternative, the sign and the test. -/
theorem toList_written (term : Term) :
    term.written.toList
      = (if term.startsGroup then orWord ++ [' '] else [])
        ++ (sign term.negated ++ term.test.quoted.display.toList) := by
  rw [written, display, String.toList_append, String.toList_append, List.append_assoc, sign]
  congr 1
  · split <;> rfl
  · congr 1
    split <;> rfl

/-- No blank stands before a written test, with its minus or without. -/
theorem trimStart_signed (negated : Bool) {test : Test} (h : test.Writable) (rest : List Char) :
    trimStart (sign negated ++ test.quoted.display.toList ++ rest)
      = sign negated ++ test.quoted.display.toList ++ rest := by
  cases negated with
  | true => exact Text.trimStart_eq_self (by decide)
  | false =>
      obtain ⟨c, cs, heq, hc, -⟩ := head_written h
      rw [sign, if_neg Bool.false_ne_true, List.nil_append, heq, List.cons_append]
      exact Text.trimStart_eq_self hc

/-- A written term does not start with a blank. -/
theorem trimStart_written {term : Term} (h : term.test.Writable) (rest : List Char) :
    trimStart (term.written.toList ++ rest) = term.written.toList ++ rest := by
  rw [toList_written]
  cases term.startsGroup with
  | true => exact Text.trimStart_eq_self (by decide)
  | false =>
      rw [if_neg Bool.false_ne_true, List.nil_append]
      exact trimStart_signed term.negated h rest

section AtBlank

variable {rest : List Char} (hrest : atBlank rest = true)
include hrest

/-- A written test is read back with its minus. -/
theorem readSigned?_written (negated : Bool) {test : Test} (h : test.Writable) :
    readSigned? (sign negated ++ test.quoted.display.toList ++ rest)
      = some (⟨negated, false, test⟩, rest) := by
  cases negated with
  | true =>
      rw [sign, if_pos rfl, List.singleton_append, List.cons_append, readSigned?, readTest?_written hrest h]
      rfl
  | false =>
      have hhead : (test.quoted.display.toList ++ rest).head? ≠ some '-' := by
        obtain ⟨c, cs, heq, -, hc⟩ := head_written h
        rw [heq, List.cons_append, List.head?_cons]
        exact fun hminus => hc (Option.some.inj hminus)
      rw [sign, if_neg Bool.false_ne_true, List.nil_append, readSigned?_of_head hhead,
        if_neg (firstWord_written h rest), readTest?_written hrest h]
      rfl

/-- **Terms.** A written term is read back. -/
theorem readTerm?_written {term : Term} (h : term.test.Writable) :
    readTerm? (term.written.toList ++ rest) = some (term, rest) := by
  obtain ⟨negated, startsGroup, test⟩ := term
  have hread := readSigned?_written hrest negated h
  rw [toList_written]
  cases startsGroup with
  | true =>
      have hword : ∀ cs, firstWord (orWord ++ [' '] ++ cs) = orWord := fun _ => rfl
      have hafter : ∀ cs, trimStart (afterWord (orWord ++ [' '] ++ cs)) = trimStart cs := fun _ => rfl
      rw [if_pos rfl, List.append_assoc, readTerm?, hword, if_pos rfl, hafter, trimStart_signed negated h,
        hread]
      rfl
  | false =>
      have hword : firstWord (sign negated ++ test.quoted.display.toList ++ rest) ≠ orWord := by
        cases negated with
        | true => exact firstWord_ne_orWord (by decide) (by decide) (List.forall_mem_nil _) _
        | false => exact firstWord_written h rest
      rw [if_neg Bool.false_ne_true, List.nil_append, readTerm?, if_neg hword, hread]

end AtBlank

/-! ### Queries -/

/-- Written terms are read back from a text in which each is followed by a blank. -/
theorem tokens_flatMap_written {terms : List Term} (h : ∀ term ∈ terms, term.test.Writable) :
    tokens (terms.flatMap fun term => term.written.toList ++ [' ']) = terms := by
  induction terms with
  | nil => exact tokens_nil
  | cons term terms ih =>
      obtain ⟨hterm, hterms⟩ := List.forall_mem_cons.1 h
      have hread : ∀ cs,
          readTerm? (trimStart (term.written.toList ++ ' ' :: cs)) = some (term, ' ' :: cs) := by
        intro cs
        have hrest : atBlank (' ' :: cs) = true := Text.isBlank_space
        rw [trimStart_written hterm, readTerm?_written hrest hterm]
      have hblank : ∀ cs, tokens (' ' :: cs) = tokens cs := by
        intro cs
        rw [← tokens_trimStart, ← tokens_trimStart cs]
        rfl
      rw [List.flatMap_cons, List.append_assoc, List.singleton_append, tokens_of_some (hread _), hblank,
        ih hterms]

/-- **Written queries.** Written terms with a blank between each two of them and after the last are read
back. -/
theorem tokens_written {terms : List Term} (h : ∀ term ∈ terms, term.test.Writable) :
    tokens (Text.joinWith [' '] (terms.map fun term => term.written.toList) ++ [' ']) = terms := by
  cases terms with
  | nil => exact tokens_of_nil rfl
  | cons term terms =>
      rw [Query.joinWith_append (by simp), List.flatMap_map]
      exact tokens_flatMap_written h

/-- Terms with all the marks that must not be mixed up: an operator that could take the start of the value, a
value with blanks in quotes, and the word that opens an alternative as a text. -/
def marked : List Term :=
  [⟨false, true, .field "size" .lt "="⟩, ⟨true, true, .field "owner" .ne "x\"Ann Lee\""⟩,
    ⟨false, false, .text "OR"⟩]

theorem tokens_written_marked :
    (∀ term ∈ marked, term.test.Writable)
      ∧ marked.map written = ["OR size<=", "OR -owner!=x\"Ann Lee\"", "\"OR\""]
      ∧ tokens (Text.joinWith [' '] (marked.map fun term => term.written.toList) ++ [' ']) = marked := by
  have hwritable : ∀ term ∈ marked, term.test.Writable := by
    have hannLee : IsValue ('x' :: '"' :: ("Ann Lee".toList ++ '"' :: [])) :=
      .char (by decide) (by decide) (.quoted (by decide) .nil)
    simp only [marked, List.forall_mem_cons]
    refine ⟨?_, ?_, ?_, List.forall_mem_nil _⟩
    · exact .field (by decide) (.char (by decide) (by decide) .nil) (by decide) fun _ _ => rfl
    · exact .field (by decide) hannLee (by decide) (by decide)
    · exact .text (by decide) (by decide)
  exact ⟨hwritable, by decide, tokens_written hwritable⟩

end Term

end FeatureQuery
