import FeatureQuery.Cache.Key
import FeatureQuery.Proofs.Text.Collapsing

/-!
# Terms of collapsed texts

Reading does not depend on how many blanks there are or of what kind, up to what stands in quotes: the terms
of a collapsed text are those of the text, each with its value or text collapsed. This holds for every text,
whatever terms it has. Where a quote is left open, both texts are skipped up to the next blank.

The normal form of a query is its collapsed text without the blanks around it, so reading it gives the
collapsed query.

## Main results

* `tokens_collapse`: the terms of a collapsed text.
* `Query.read_normalizeQuery`: reading the normal form of a query.
-/

namespace FeatureQuery

open FeatureQuery.Text (collapse collapseFrom collapseFrom_cons collapse_cons isBlank trimStart)

/-- The test with the blanks in its value or text collapsed. -/
def Test.collapsed : Test → Test
  | .field name op raw => .field name op (String.ofList (collapse raw.toList))
  | .text content => .text (String.ofList (collapse content.toList))

theorem Test.collapsed_field (name : String) (op : Operator) (value : List Char) :
    (Test.field name op (String.ofList value)).collapsed = .field name op (String.ofList (collapse value)) := by
  rw [Test.collapsed, String.toList_ofList]

theorem Test.collapsed_text (content : List Char) :
    (Test.text (String.ofList content)).collapsed = .text (String.ofList (collapse content)) := by
  rw [Test.collapsed, String.toList_ofList]

/-- The term with its test collapsed. -/
def Term.collapsed (term : Term) : Term :=
  { term with test := term.test.collapsed }

/-- The query with all its terms collapsed. -/
def Query.collapsed (query : Query) : Query :=
  ⟨query.clauses.map fun clause => clause.map Term.collapsed⟩

namespace Term

/-! ### Tests -/

/-- Names hold no blanks. -/
theorem isNameChar_blank : ∀ c, isBlank c = true → isNameChar c = false :=
  Text.forall_blank (by decide)

/-- Texts without quotes hold no blanks. -/
theorem isTextChar_blank {c : Char} (h : isBlank c = true) : isTextChar c = false := by
  rw [isTextChar, h]
  rfl

/-- A text is at a blank or at its end exactly if its collapsed form is. -/
theorem atBlank_collapse (cs : List Char) : atBlank (collapse cs) = atBlank cs := by
  cases cs with
  | nil => rfl
  | cons c cs =>
      by_cases hc : isBlank c = true
      · rw [collapse, Text.collapseFrom_false_cons hc, atBlank, atBlank, hc, Text.isBlank_space]
      · rw [collapse_cons (Bool.eq_false_iff.2 hc), atBlank, atBlank]

theorem readValue?_blank {c : Char} (h : isBlank c = true) (cs : List Char) :
    readValue? false (c :: cs) = some ([], c :: cs) := by
  rw [readValue?, h]
  rfl

/-- A character that does not end the value goes onto it. -/
theorem readValue?_cons {quoted : Bool} {c : Char} (h : isBlank c = true → quoted = true)
    (cs : List Char) :
    readValue? quoted (c :: cs)
      = (readValue? (if c = '"' then !quoted else quoted) cs).map (Prod.map (c :: ·) id) := by
  have hgoes : ¬ (isBlank c && !quoted) = true := by
    rw [Bool.and_eq_true, Bool.not_eq_true']
    exact fun hends => absurd (h hends.1) (Bool.eq_false_iff.1 hends.2)
  rw [readValue?, if_neg hgoes]
  rfl

/-- A value is collapsed with the text. Only inside quotes may a run of blanks have begun before. -/
theorem readValue?_collapseFrom {quoted inBlank : Bool} (h : inBlank = true → quoted = true)
    (cs : List Char) :
    readValue? quoted (collapseFrom inBlank cs)
      = (readValue? quoted cs).map (Prod.map (collapseFrom inBlank) collapse) := by
  induction cs generalizing quoted inBlank with
  | nil => rfl
  | cons c cs ih =>
      by_cases hc : isBlank c = true
      · have hquote : ∀ {d}, isBlank d = true → d ≠ '"' := by
          intro d hd
          exact Text.ne_of_isBlank hd (by decide)
        cases quoted with
        | false =>
            obtain rfl : inBlank = false := Bool.eq_false_iff.2 fun hin => Bool.false_ne_true (h hin)
            rw [readValue?_blank hc, Text.collapseFrom_false_cons hc, readValue?_blank Text.isBlank_space,
              Option.map_some, Prod.map_apply, collapse, Text.collapseFrom_false_cons hc]
            rfl
        | true =>
            rw [readValue?_cons (fun _ => rfl), if_neg (hquote hc), Option.map_map]
            cases inBlank with
            | true =>
                rw [Text.collapseFrom_true_cons hc, ih fun _ => rfl]
                refine congrArg (Option.map · _) (funext fun pair => Prod.ext ?_ rfl)
                exact (Text.collapseFrom_true_cons hc pair.1).symm
            | false =>
                rw [Text.collapseFrom_false_cons hc, readValue?_cons (fun _ => rfl),
                  if_neg (hquote Text.isBlank_space), ih (fun _ => rfl), Option.map_map]
                refine congrArg (Option.map · _) (funext fun pair => Prod.ext ?_ rfl)
                exact (Text.collapseFrom_false_cons hc pair.1).symm
      · have hplain := Bool.eq_false_iff.2 hc
        rw [collapseFrom_cons hplain, readValue?_cons fun hblank => absurd hblank hc,
          readValue?_cons fun hblank => absurd hblank hc, collapse,
          ih fun hfalse => absurd hfalse Bool.false_ne_true, Option.map_map, Option.map_map]
        refine congrArg (Option.map · _) (funext fun pair => Prod.ext ?_ rfl)
        exact (collapseFrom_cons hplain inBlank pair.1).symm

/-- A word without blanks starts a text exactly if it starts the collapsed one, and what follows it is
collapsed on its own. -/
theorem prefix_collapse {word : List Char} (hword : ∀ c ∈ word, isBlank c = false) (cs : List Char) :
    word.isPrefixOf (collapse cs) = word.isPrefixOf cs
      ∧ (word.isPrefixOf cs = true → (collapse cs).drop word.length = collapse (cs.drop word.length)) := by
  induction word generalizing cs with
  | nil => exact ⟨rfl, fun _ => rfl⟩
  | cons d word ih =>
      obtain ⟨hd, hword⟩ := List.forall_mem_cons.1 hword
      cases cs with
      | nil => exact ⟨rfl, fun h => absurd h (by simp)⟩
      | cons c cs =>
          by_cases hc : isBlank c = true
          · have hne : ∀ {e}, isBlank e = true → (d == e) = false := by
              intro e he
              exact beq_eq_false_iff_ne.2 (Text.ne_of_isBlank he hd).symm
            rw [collapse, Text.collapseFrom_false_cons hc, List.isPrefixOf_cons_cons, List.isPrefixOf_cons_cons,
              hne hc, hne Text.isBlank_space]
            exact ⟨rfl, fun h => absurd h (by simp)⟩
          · rw [collapse_cons (Bool.eq_false_iff.2 hc), List.isPrefixOf_cons_cons, List.isPrefixOf_cons_cons,
              (ih hword cs).1]
            refine ⟨rfl, ?_⟩
            intro h
            exact (ih hword cs).2 (Bool.and_eq_true_iff.1 h).2

/-- Where an operator is spelled, its value is read after it; elsewhere there is no comparison. -/
theorem readComparison?_eq (cs : List Char) (spelling : List Char × Operator) :
    readComparison? cs spelling
      = if spelling.1.isPrefixOf cs then
          ((readValue? false (cs.drop spelling.1.length)).filter fun pair => !pair.1.isEmpty).map
            fun pair => (spelling.2, pair)
        else none := by
  rw [readComparison?]
  cases readValue? false (cs.drop spelling.1.length) with
  | none => cases spelling.1.isPrefixOf cs <;> rfl
  | some pair =>
      obtain ⟨value, rest⟩ := pair
      rw [Option.filter_some]
      cases spelling.1.isPrefixOf cs <;> cases value <;> rfl

/-- A comparison is read alike, with its value collapsed. -/
theorem readComparison?_collapse {spelling : List Char × Operator}
    (hspelling : ∀ c ∈ spelling.1, isBlank c = false) (cs : List Char) :
    readComparison? (collapse cs) spelling
      = (readComparison? cs spelling).map (Prod.map id (Prod.map collapse collapse)) := by
  obtain ⟨hspelled, hdrop⟩ := prefix_collapse hspelling cs
  have hvalue : readValue? false (collapse (cs.drop spelling.1.length))
      = (readValue? false (cs.drop spelling.1.length)).map (Prod.map collapse collapse) :=
    readValue?_collapseFrom (fun h => h) _
  rw [readComparison?_eq, readComparison?_eq, hspelled]
  by_cases h : spelling.1.isPrefixOf cs = true
  · rw [if_pos h, if_pos h, hdrop h, hvalue, Option.filter_map, Option.map_map, Option.map_map]
    refine congrArg (Option.map _) (congrArg (Option.filter · _) (funext fun pair => ?_))
    exact congrArg not (Text.isEmpty_collapse pair.1)
  · rw [if_neg h, if_neg h]
    rfl

/-- No blank stands in an operator. -/
theorem not_isBlank_spelling {spelling : List Char × Operator} (h : spelling ∈ spellings) :
    ∀ c ∈ spelling.1, isBlank c = false := by
  have hall : (spellings.all fun spelling => spelling.1.all fun c => !isBlank c) = true := by decide
  intro c hc
  have hplain := List.all_eq_true.1 (List.all_eq_true.1 hall spelling h) c hc
  rwa [Bool.not_eq_true'] at hplain

/-- The first of some comparisons that can be read is read alike. -/
theorem findSome?_readComparison?_collapse {some : List (List Char × Operator)}
    (h : ∀ spelling ∈ some, ∀ c ∈ spelling.1, isBlank c = false) (cs : List Char) :
    some.findSome? (readComparison? (collapse cs))
      = (some.findSome? (readComparison? cs)).map (Prod.map id (Prod.map collapse collapse)) := by
  induction some with
  | nil => rfl
  | cons spelling rest ih =>
      obtain ⟨hspelling, hrest⟩ := List.forall_mem_cons.1 h
      rw [List.findSome?_cons, List.findSome?_cons, readComparison?_collapse hspelling, ih hrest]
      cases readComparison? cs spelling with
      | none => rfl
      | some found => rfl

/-- A test and what follows it, both collapsed. -/
def collapsedTest : Test × List Char → Test × List Char :=
  Prod.map Test.collapsed collapse

/-- A test of a field is read alike. -/
theorem readField?_collapse (cs : List Char) :
    readField? (collapse cs) = (readField? cs).map collapsedTest := by
  cases cs with
  | nil => rfl
  | cons c cs =>
      by_cases hc : isBlank c = true
      · have hnone : ∀ {d}, isBlank d = true → ∀ ds, readField? (d :: ds) = none := by
          intro d hd ds
          have halpha : d.isAlpha = false := Text.forall_blank (by decide) d hd
          rw [readField?, halpha]
          cases spellings.findSome? (readComparison? ((d :: ds).dropWhile isNameChar)) with
          | none => rfl
          | some found => rfl
        rw [collapse, Text.collapseFrom_false_cons hc, hnone hc, hnone Text.isBlank_space]
        rfl
      · have hplain := collapse_cons (Bool.eq_false_iff.2 hc) cs
        have htake := Text.takeWhile_collapse isNameChar_blank (c :: cs)
        have hdrop := Text.dropWhile_collapse isNameChar_blank (c :: cs)
        rw [hplain] at htake hdrop
        rw [hplain, readField?, readField?, htake, hdrop,
          findSome?_readComparison?_collapse fun _ => not_isBlank_spelling]
        cases spellings.findSome? (readComparison? ((c :: cs).dropWhile isNameChar)) with
        | none => rfl
        | some found =>
            obtain ⟨op, value, rest⟩ := found
            cases c.isAlpha with
            | false => rfl
            | true =>
                refine congrArg some (Prod.ext ?_ rfl)
                exact (Test.collapsed_field _ op value).symm

/-- A text between quotes starts with one. -/
theorem readQuoted?_of_head {cs : List Char} (h : cs.head? ≠ some '"') : readQuoted? cs = none := by
  rw [readQuoted?.eq_def]
  split
  · exact absurd rfl h
  · rfl

/-- A text between quotes is read alike. -/
theorem readQuoted?_collapse (cs : List Char) :
    readQuoted? (collapse cs) = (readQuoted? cs).map collapsedTest := by
  by_cases hhead : cs.head? = some '"'
  · obtain ⟨inner, rfl⟩ := List.head?_eq_some_iff.1 hhead
    have hblank : ∀ c, isBlank c = true → (c != '"') = true := Text.forall_blank (by decide)
    have htake : (collapse inner).takeWhile (· != '"') = collapse (inner.takeWhile (· != '"')) :=
      Text.takeWhile_collapseFrom hblank false inner
    have hdrop : ((collapse inner).dropWhile (· != '"')).drop 1
        = collapse ((inner.dropWhile (· != '"')).drop 1) := by
      rw [collapse, Text.dropWhile_collapseFrom hblank]
      cases hrest : inner.dropWhile (· != '"') with
      | nil => rfl
      | cons d rest =>
          have hquote : (d != '"') = false := by
            simpa [hrest] using List.head?_dropWhile_not (· != '"') inner
          have hplain : isBlank d = false := Text.not_isBlank_of_ne hblank (Bool.eq_false_iff.1 hquote)
          rw [collapse_cons hplain]
          rfl
    rw [collapse_cons (by decide), readQuoted?, readQuoted?, htake, hdrop, Text.isEmpty_collapse,
      atBlank_collapse]
    split
    · refine congrArg some (Prod.ext ?_ rfl)
      exact (Test.collapsed_text _).symm
    · rfl
  · have hhead' : (collapse cs).head? ≠ some '"' :=
      fun h => hhead ((Text.head?_collapse_iff (by decide) cs).1 h)
    rw [readQuoted?_of_head hhead, readQuoted?_of_head hhead']
    rfl

/-- A text without quotes is read alike. -/
theorem readBare?_collapse (cs : List Char) :
    readBare? (collapse cs) = (readBare? cs).map collapsedTest := by
  cases cs with
  | nil => rfl
  | cons c cs =>
      by_cases hc : isBlank c = true
      · have hnone : ∀ {d}, isBlank d = true → ∀ ds, readBare? (d :: ds) = none := by
          intro d hd ds
          rw [readBare?, List.takeWhile_cons_of_neg (Bool.eq_false_iff.1 (isTextChar_blank hd))]
          rfl
        rw [collapse, Text.collapseFrom_false_cons hc, hnone hc, hnone Text.isBlank_space]
        rfl
      · have hplain := collapse_cons (Bool.eq_false_iff.2 hc) cs
        have htake := Text.takeWhile_collapse (fun _ => isTextChar_blank) (c :: cs)
        have hdrop := Text.dropWhile_collapse (fun _ => isTextChar_blank) (c :: cs)
        rw [hplain] at htake hdrop
        rw [hplain, readBare?, readBare?, htake, hdrop, atBlank_collapse]
        split
        · have htext : ∀ d ∈ (c :: cs).takeWhile isTextChar, isBlank d = false := by
            intro d hd
            have hchar : isTextChar d = true := List.all_eq_true.1 List.all_takeWhile d hd
            exact Text.not_isBlank_of_ne (fun _ => isTextChar_blank) (Bool.ne_false_iff.2 hchar)
          have hsame : collapse ((c :: cs).takeWhile isTextChar) = (c :: cs).takeWhile isTextChar :=
            Text.collapseFrom_of_not_blank htext false
          refine congrArg some (Prod.ext ?_ rfl)
          rw [collapsedTest, Prod.map_apply, Test.collapsed_text, hsame]
        · rfl

/-- A test is read alike. -/
theorem readTest?_collapse (cs : List Char) :
    readTest? (collapse cs) = (readTest? cs).map collapsedTest := by
  rw [readTest?, readTest?, readField?_collapse, readQuoted?_collapse, readBare?_collapse]
  cases readField? cs with
  | some found => rfl
  | none =>
      cases readQuoted? cs with
      | some found => rfl
      | none => rfl

/-! ### Terms -/

/-- A term and what follows it, both collapsed. -/
def collapsedTerm : Term × List Char → Term × List Char :=
  Prod.map Term.collapsed collapse

/-- The first word has no blanks that could be collapsed. -/
theorem firstWord_collapse (cs : List Char) : firstWord (collapse cs) = firstWord cs :=
  Text.takeWhile_collapse (fun c hc => by rw [hc]; rfl) cs

/-- What follows the first word is collapsed with the text. -/
theorem afterWord_collapse (cs : List Char) : afterWord (collapse cs) = collapse (afterWord cs) :=
  Text.dropWhile_collapse (fun c hc => by rw [hc]; rfl) cs

/-- Without a minus a test is read, unless it is the word that opens an alternative. -/
theorem readSigned?_of_head {cs : List Char} (h : cs.head? ≠ some '-') :
    readSigned? cs
      = if firstWord cs = orWord then none
        else (readTest? cs).map fun pair => (⟨false, false, pair.1⟩, pair.2) := by
  rw [readSigned?.eq_def]
  split
  · exact absurd rfl h
  · rfl

/-- A test with an optional minus is read alike. -/
theorem readSigned?_collapse (cs : List Char) :
    readSigned? (collapse cs) = (readSigned? cs).map collapsedTerm := by
  by_cases hhead : cs.head? = some '-'
  · obtain ⟨inner, rfl⟩ := List.head?_eq_some_iff.1 hhead
    rw [collapse_cons (by decide), readSigned?, readSigned?, readTest?_collapse, Option.map_map,
      Option.map_map]
    rfl
  · have hhead' : (collapse cs).head? ≠ some '-' :=
      fun h => hhead ((Text.head?_collapse_iff (by decide) cs).1 h)
    rw [readSigned?_of_head hhead, readSigned?_of_head hhead', firstWord_collapse, readTest?_collapse]
    split
    · rfl
    · rw [Option.map_map, Option.map_map]
      rfl

/-- A term is read alike. -/
theorem readTerm?_collapse (cs : List Char) :
    readTerm? (collapse cs) = (readTerm? cs).map collapsedTerm := by
  have hafter : trimStart (afterWord (collapse cs)) = collapse (trimStart (afterWord cs)) := by
    rw [afterWord_collapse, collapse, Text.trimStart_collapseFrom]
  rw [readTerm?, readTerm?, firstWord_collapse, hafter, readSigned?_collapse, readSigned?_collapse]
  split
  · rw [Option.map_map, Option.map_map]
    rfl
  · rfl

/-! ### Queries -/

theorem readTerm?_nil : readTerm? [] = none := rfl

/-- Blanks hold no terms. -/
theorem tokens_of_nil {cs : List Char} (h : trimStart cs = []) : tokens cs = [] := by
  rw [tokens]
  split
  · rfl
  · next hstart => exact absurd (h.symm.trans hstart) (List.cons_ne_nil _ _).symm

/-- A term is followed by the terms of the rest. -/
theorem tokens_of_some {cs rest : List Char} {term : Term} (h : readTerm? (trimStart cs) = some (term, rest)) :
    tokens cs = term :: tokens rest := by
  rw [tokens]
  split
  · next hstart =>
      rw [hstart, readTerm?_nil] at h
      exact absurd h (by simp)
  · next hstart =>
      rw [hstart] at h
      split
      · next hterm =>
          obtain ⟨rfl, rfl⟩ := Prod.mk.inj (Option.some.inj (h.symm.trans hterm))
          rfl
      · next hterm => exact absurd (h.symm.trans hterm) (by simp)

/-- What is no term is skipped up to the next blank. -/
theorem tokens_of_none {cs : List Char} (h : readTerm? (trimStart cs) = none) :
    tokens cs = tokens (afterWord (trimStart cs)) := by
  rw [tokens]
  split
  · next hstart =>
      rw [hstart]
      exact (tokens_of_nil rfl).symm
  · next hstart =>
      rw [hstart] at h ⊢
      split
      · next hterm => exact absurd (h.symm.trans hterm) (by simp)
      · rfl

/-- Blanks at the start do not count. -/
theorem tokens_trimStart (cs : List Char) : tokens (trimStart cs) = tokens cs := by
  have htwice : trimStart (trimStart cs) = trimStart cs := Text.trimStart_of_head (Text.head_trimStart cs)
  cases hterm : readTerm? (trimStart cs) with
  | some pair =>
      obtain ⟨term, rest⟩ := pair
      rw [tokens_of_some hterm, tokens_of_some (htwice.symm ▸ hterm)]
  | none => rw [tokens_of_none hterm, tokens_of_none (htwice.symm ▸ hterm), htwice]

/-- **Reading.** The terms of a collapsed text are those of the text, collapsed. -/
theorem tokens_collapse (cs : List Char) : tokens (collapse cs) = (tokens cs).map Term.collapsed := by
  have hstart : ∀ ds, trimStart (collapse ds) = collapse (trimStart ds) :=
    Text.trimStart_collapseFrom false
  induction cs using tokens.induct with
  | case1 cs hnil =>
      rw [tokens_of_nil hnil, tokens_of_nil (by rw [hstart, hnil, Text.collapse_nil])]
      rfl
  | case2 cs c rest hcs term rest' hterm ih =>
      rw [← hcs] at hterm
      have hcollapse : readTerm? (trimStart (collapse cs)) = some (term.collapsed, collapse rest') := by
        rw [hstart, readTerm?_collapse, hterm]
        rfl
      rw [tokens_of_some hterm, tokens_of_some hcollapse, ih, List.map_cons]
  | case3 cs c rest hcs hterm ih =>
      rw [← hcs] at hterm ih
      have hcollapse : readTerm? (trimStart (collapse cs)) = none := by
        rw [hstart, readTerm?_collapse, hterm]
        rfl
      rw [tokens_of_none hterm, tokens_of_none hcollapse, hstart, afterWord_collapse, ih]

end Term

/-! ### Normal forms -/

namespace Query

/-- Collapsing the terms leaves them in their alternatives. -/
theorem groups_collapsed (terms : List Term) :
    groups (terms.map Term.collapsed) = (groups terms).map fun clause => clause.map Term.collapsed := by
  induction terms with
  | nil => rfl
  | cons term terms ih =>
      have hopens : opensGroup (terms.map Term.collapsed) = opensGroup terms := by
        cases terms with
        | nil => rfl
        | cons term terms => rfl
      rw [List.map_cons, groups, ih, groups, hopens]
      cases groups terms with
      | nil => rfl
      | cons clause clauses =>
          rw [List.map_cons]
          dsimp only
          split
          · rfl
          · rfl

/-- The terms of a collapsed query are the collapsed terms. -/
theorem terms_collapsed (query : Query) : query.collapsed.terms = query.terms.map Term.collapsed := by
  rw [terms, terms, collapsed, List.map_flatten]

/-- Words with a blank between each two of them and after the last have a blank after each of them. -/
theorem joinWith_append {words : List (List Char)} (h : words ≠ []) :
    Text.joinWith [' '] words ++ [' '] = words.flatMap (· ++ [' ']) := by
  induction words with
  | nil => exact absurd rfl h
  | cons word words ih =>
      cases words with
      | nil => simp [Text.joinWith]
      | cons next words =>
          have hjoin : Text.joinWith [' '] (word :: next :: words)
              = word ++ ' ' :: Text.joinWith [' '] (next :: words) := rfl
          rw [hjoin, List.flatMap_cons, ← ih (List.cons_ne_nil next words)]
          simp

/-- The terms of a normal form are those of the collapsed text. -/
theorem tokens_joinWith (cs : List Char) :
    Term.tokens (Text.joinWith [' '] (Text.words cs) ++ [' ']) = Term.tokens (collapse (cs ++ [' '])) := by
  have hwords : Term.tokens ((Text.words cs).flatMap (· ++ [' '])) = Term.tokens (collapse (cs ++ [' '])) := by
    rw [Text.flatMap_words, ← Term.tokens_trimStart, Text.trimStart_collapseFrom,
      ← Text.trimStart_collapseFrom false, Term.tokens_trimStart, collapse]
  by_cases hnil : Text.words cs = []
  · rw [hnil] at hwords ⊢
    rw [← hwords]
    exact (Term.tokens_of_nil rfl).trans (Term.tokens_of_nil rfl).symm
  · rw [joinWith_append hnil, hwords]

/-- **Normal forms.** Reading the normal form of a query gives the query, collapsed. -/
theorem read_normalizeQuery (text : String) : read (normalizeQuery text) = (read text).collapsed := by
  rw [read, normalizeQuery, String.toList_ofList, tokens_joinWith, Term.tokens_collapse, ofTerms,
    groups_collapsed]
  rfl

end Query

end FeatureQuery
