import FeatureQuery.Term
import FeatureQuery.Text.Blank

/-!
# Reading terms

A query is a sequence of terms, each followed by a blank:

* a term is a test with an optional minus before it, and an optional `OR` before that;
* a test is a name, an operator and a value, or else a text;
* a value is a run of characters in which blanks stand only between quotes;
* a text is a word without operator characters, or anything between quotes.

What is no term is skipped up to the next blank, and so is an `OR` that no term follows. Reading never
fails.

## Main results

* `length_lt_of_readTerm?`: a term takes at least one character.
* `tokens_nil`: an empty query has no terms.
-/

namespace FeatureQuery.Term

open FeatureQuery.Text (isBlank trimStart length_trimStart_le)

/-! ### Character classes -/

/-- A character of a field's name after the first, which is a letter. -/
def isNameChar (c : Char) : Bool :=
  c.isAlphanum || c == '_' || c == '.' || c == '-'

/-- A character of a text that stands without quotes. The first one is not a minus either. -/
def isTextChar (c : Char) : Bool :=
  !isBlank c && !(['"', '=', '<', '>', '!', ':'].contains c)

/-- The text is followed by a blank. -/
def atBlank : List Char → Bool
  | [] => false
  | c :: _ => isBlank c

/-! ### Tests -/

/-- The spellings of operators, longer ones before those that they start with. -/
def spellings : List (List Char × Operator) :=
  [(['!', '='], .ne), (['<', '='], .le), (['>', '='], .ge), (['='], .eq), (['<'], .lt), (['>'], .gt),
   ([':'], .eq)]

/-- Reads a value up to the first blank outside quotes. There is none if a quote is left open or if no
blank follows. -/
def readValue? (quoted : Bool) : List Char → Option (List Char × List Char)
  | [] => none
  | c :: cs =>
    if isBlank c && !quoted then some ([], c :: cs)
    else (readValue? (if c = '"' then !quoted else quoted) cs).map fun (value, rest) => (c :: value, rest)

/-- Reads one operator and the value after it, which is not empty. -/
def readComparison? (cs : List Char) (spelling : List Char × Operator) :
    Option (Operator × List Char × List Char) := do
  let (value, rest) ← readValue? false (cs.drop spelling.1.length)
  if spelling.1.isPrefixOf cs && !value.isEmpty then return (spelling.2, value, rest) else none

/-- Reads a test of a field. Where the longest operator leaves no value, a shorter one is taken. -/
def readField? : List Char → Option (Test × List Char)
  | [] => none
  | c :: cs => do
    let name := (c :: cs).takeWhile isNameChar
    let (op, value, rest) ← spellings.findSome? (readComparison? ((c :: cs).dropWhile isNameChar))
    if c.isAlpha then return (.field (String.ofList name) op (String.ofList value), rest) else none

/-- Reads a text between quotes. -/
def readQuoted? : List Char → Option (Test × List Char)
  | '"' :: cs =>
    let text := cs.takeWhile (· != '"')
    let rest := (cs.dropWhile (· != '"')).drop 1
    if !text.isEmpty && atBlank rest then some (.text (String.ofList text), rest) else none
  | _ => none

/-- Reads a text without quotes. -/
def readBare? : List Char → Option (Test × List Char)
  | [] => none
  | c :: cs =>
    let text := (c :: cs).takeWhile isTextChar
    let rest := (c :: cs).dropWhile isTextChar
    if !text.isEmpty && c != '-' && atBlank rest then some (.text (String.ofList text), rest) else none

/-- Reads a test. -/
def readTest? (cs : List Char) : Option (Test × List Char) :=
  readField? cs <|> readQuoted? cs <|> readBare? cs

/-! ### Terms -/

/-- The first word of a text. -/
def firstWord (cs : List Char) : List Char :=
  cs.takeWhile fun c => !isBlank c

/-- What follows the first word of a text. -/
def afterWord (cs : List Char) : List Char :=
  cs.dropWhile fun c => !isBlank c

/-- The word that opens an alternative. -/
def orWord : List Char := ['O', 'R']

/-- Reads a test with an optional minus. The word `OR` alone is no test. -/
def readSigned? : List Char → Option (Term × List Char)
  | '-' :: cs => (readTest? cs).map fun (test, rest) => (⟨true, false, test⟩, rest)
  | cs =>
    if firstWord cs = orWord then none
    else (readTest? cs).map fun (test, rest) => (⟨false, false, test⟩, rest)

/-- Reads a term. -/
def readTerm? (cs : List Char) : Option (Term × List Char) :=
  if firstWord cs = orWord then
    (readSigned? (trimStart (afterWord cs))).map fun (term, rest) =>
      (⟨term.negated, true, term.test⟩, rest)
  else
    readSigned? cs

/-! ### Lengths -/

/-- What is read of a value and the rest make up the text. -/
theorem length_of_readValue? {quoted : Bool} {cs value rest : List Char}
    (h : readValue? quoted cs = some (value, rest)) : value.length + rest.length = cs.length := by
  induction cs generalizing quoted value with
  | nil => simp [readValue?] at h
  | cons c cs ih =>
    unfold readValue? at h
    split at h
    · simp only [Option.some.injEq, Prod.mk.injEq] at h
      simp [← h.1, ← h.2]
    · obtain ⟨⟨inner, rest'⟩, hinner, heq⟩ := Option.map_eq_some_iff.1 h
      simp only [Prod.mk.injEq] at heq
      obtain ⟨rfl, rfl⟩ := heq
      have := ih hinner
      simp only [List.length_cons]
      omega

/-- A comparison takes its operator at least. -/
theorem length_lt_of_readComparison? {cs rest value : List Char} {spelling : List Char × Operator}
    {op : Operator} (h : readComparison? cs spelling = some (op, value, rest)) :
    rest.length < cs.length := by
  simp only [readComparison?, Option.bind_eq_bind, Option.bind_eq_some_iff] at h
  obtain ⟨⟨v, r⟩, hvalue, h⟩ := h
  simp only [Option.ite_none_right_eq_some, Bool.and_eq_true, Bool.not_eq_true', pure,
    List.isEmpty_eq_false_iff, Option.some.injEq, Prod.mk.injEq] at h
  obtain ⟨⟨-, hv⟩, -, rfl, rfl⟩ := h
  have hpos := List.length_pos_iff.2 hv
  have hlen := length_of_readValue? hvalue
  simp only [List.length_drop] at hlen
  omega

/-- What is left after a run of characters is no longer than the text. -/
theorem length_dropWhile_le {α : Type} (p : α → Bool) (l : List α) :
    (l.dropWhile p).length ≤ l.length :=
  (List.dropWhile_suffix _).length_le

/-- A test of a field takes a character at least. -/
theorem length_lt_of_readField? {cs rest : List Char} {test : Test}
    (h : readField? cs = some (test, rest)) : rest.length < cs.length := by
  cases cs with
  | nil => simp [readField?] at h
  | cons c cs =>
    simp only [readField?, Option.bind_eq_bind, Option.bind_eq_some_iff] at h
    obtain ⟨⟨op, value, rest'⟩, hfind, h⟩ := h
    obtain ⟨spelling, -, hcomparison⟩ := List.exists_of_findSome?_eq_some hfind
    have hlt := length_lt_of_readComparison? hcomparison
    have hle := length_dropWhile_le isNameChar (c :: cs)
    split at h
    · simp only [pure, Option.some.injEq, Prod.mk.injEq] at h
      obtain ⟨-, rfl⟩ := h
      omega
    · simp at h

/-- So does a quoted text. -/
theorem length_lt_of_readQuoted? {cs rest : List Char} {test : Test}
    (h : readQuoted? cs = some (test, rest)) : rest.length < cs.length := by
  unfold readQuoted? at h
  split at h
  · rename_i cs
    simp only [Option.ite_none_right_eq_some, Option.some.injEq, Prod.mk.injEq] at h
    obtain ⟨-, -, rfl⟩ := h
    have := length_dropWhile_le (· != '"') cs
    simp only [List.length_drop, List.length_cons]
    omega
  · simp at h

/-- So does a bare word. -/
theorem length_lt_of_readBare? {cs rest : List Char} {test : Test}
    (h : readBare? cs = some (test, rest)) : rest.length < cs.length := by
  cases cs with
  | nil => simp [readBare?] at h
  | cons c cs =>
    simp only [readBare?, Option.ite_none_right_eq_some, Option.some.injEq, Prod.mk.injEq] at h
    obtain ⟨htext, -, rfl⟩ := h
    have htake : 0 < ((c :: cs).takeWhile isTextChar).length := by
      simp only [Bool.and_eq_true, Bool.not_eq_true', List.isEmpty_eq_false_iff] at htext
      exact List.length_pos_iff.2 htext.1.1
    have := congrArg List.length (List.takeWhile_append_dropWhile (p := isTextChar) (l := c :: cs))
    rw [List.length_append] at this
    omega

/-- So does any test. -/
theorem length_lt_of_readTest? {cs rest : List Char} {test : Test}
    (h : readTest? cs = some (test, rest)) : rest.length < cs.length := by
  simp only [readTest?, Option.orElse_eq_orElse, Option.orElse_eq_or, Option.or_eq_some_iff] at h
  rcases h with h | ⟨-, h | ⟨-, h⟩⟩
  · exact length_lt_of_readField? h
  · exact length_lt_of_readQuoted? h
  · exact length_lt_of_readBare? h

/-- So does a test with its sign. -/
theorem length_lt_of_readSigned? {cs rest : List Char} {term : Term}
    (h : readSigned? cs = some (term, rest)) : rest.length < cs.length := by
  unfold readSigned? at h
  split at h
  · obtain ⟨⟨test, rest'⟩, htest, heq⟩ := Option.map_eq_some_iff.1 h
    simp only [Prod.mk.injEq] at heq
    obtain ⟨-, rfl⟩ := heq
    have := length_lt_of_readTest? htest
    simp only [List.length_cons]
    omega
  · split at h
    · simp at h
    · obtain ⟨⟨test, rest'⟩, htest, heq⟩ := Option.map_eq_some_iff.1 h
      simp only [Prod.mk.injEq] at heq
      obtain ⟨-, rfl⟩ := heq
      exact length_lt_of_readTest? htest

/-- So does a term. -/
theorem length_lt_of_readTerm? {cs rest : List Char} {term : Term}
    (h : readTerm? cs = some (term, rest)) : rest.length < cs.length := by
  unfold readTerm? at h
  split at h
  · obtain ⟨⟨signed, rest'⟩, hsigned, heq⟩ := Option.map_eq_some_iff.1 h
    simp only [Prod.mk.injEq] at heq
    obtain ⟨-, rfl⟩ := heq
    have h1 := length_lt_of_readSigned? hsigned
    have h2 := length_trimStart_le (afterWord cs)
    have h3 := length_dropWhile_le (fun c => !isBlank c) cs
    unfold afterWord at h1 h2
    omega
  · exact length_lt_of_readSigned? h

/-- So does a word that is passed over, with the blanks before it. -/
theorem length_afterWord_lt {cs rest : List Char} {c : Char} (h : trimStart cs = c :: rest) :
    (afterWord (c :: rest)).length < cs.length := by
  have hc := Text.not_isBlank_of_trimStart_eq_cons h
  have h1 : afterWord (c :: rest) = rest.dropWhile fun c => !isBlank c := by
    simp [afterWord, hc]
  have h2 := length_dropWhile_le (fun c => !isBlank c) rest
  have h3 := length_trimStart_le cs
  rw [h] at h3
  simp only [List.length_cons] at h3
  rw [h1]
  omega

/-! ### Queries -/

/-- The terms of a text, in order. A term counts only if a blank follows it. -/
def tokens (cs : List Char) : List Term :=
  match _hstart : trimStart cs with
  | [] => []
  | c :: rest =>
    match _hterm : readTerm? (c :: rest) with
    | some (term, rest') => term :: tokens rest'
    | none => tokens (afterWord (c :: rest))
termination_by cs.length
decreasing_by
  · have h1 := length_lt_of_readTerm? _hterm
    have h2 := length_trimStart_le cs
    rw [_hstart] at h2
    omega
  · exact length_afterWord_lt _hstart

/-- There are no terms in an empty text. -/
theorem tokens_nil : tokens [] = [] := by
  unfold tokens
  simp [trimStart]

end FeatureQuery.Term
