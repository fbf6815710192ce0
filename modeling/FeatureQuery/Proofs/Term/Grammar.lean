import FeatureQuery.Proofs.Term.Collapsing

/-!
# The grammar of tests

What tests of fields are made of, said without the readers: names, operators and values. A test is read up to
the blank after it, so what follows that blank makes no difference; and of several operators that the text of a
comparison may start with, the longest one counts that leaves a value.

## Main results

* `readValue?_append`: a value is read as it stands.
* `findSome?_of_isComparison`, `isComparison_of_findSome?`: the operators are tried in the right order.
* `readField?_append`: a test of a field is read as it stands.
-/

namespace FeatureQuery.Term

open FeatureQuery.Text (isBlank trimStart)

/-! ### Names, values and comparisons -/

/-- A name: an ASCII letter, with ASCII letters and digits, underscores, dots and minuses after it. -/
def IsName : List Char → Prop
  | [] => False
  | c :: cs => c.isAlpha = true ∧ ∀ d ∈ cs, isNameChar d = true

instance : DecidablePred IsName
  | [] => isFalse id
  | _ :: cs => @instDecidableAnd _ _ _ (List.decidableBAll _ cs)

/-- A value, which may be empty: characters other than blanks and quotes, and texts in quotes. -/
inductive IsValue : List Char → Prop
  | nil : IsValue []
  | char {c : Char} {cs : List Char} (hblank : isBlank c = false) (hquote : c ≠ '"') (h : IsValue cs) :
      IsValue (c :: cs)
  | quoted {content cs : List Char} (hcontent : '"' ∉ content) (h : IsValue cs) :
      IsValue ('"' :: (content ++ '"' :: cs))

/-- A text is an operator and a value after it that is not empty. -/
structure SplitsInto (cs spelling : List Char) (op : Operator) (value : List Char) : Prop where
  spelled : Operator.ofSymbol? (String.ofList spelling) = some op
  eq_append : cs = spelling ++ value
  ne_nil : value ≠ []

/-- A comparison: the longest operator that a text starts with and that leaves a value, and this value. -/
def IsComparison (cs : List Char) (op : Operator) (value : List Char) : Prop :=
  ∃ spelling, SplitsInto cs spelling op value
    ∧ ∀ other op' value', SplitsInto cs other op' value' → other.length ≤ spelling.length

/-- Words without quotes. -/
def Plain (cs : List Char) : Prop :=
  ∀ c ∈ cs, isBlank c = false ∧ c ≠ '"'

instance (cs : List Char) : Decidable (Plain cs) :=
  List.decidableBAll _ cs

/-- A plain word is a value. -/
theorem IsValue.of_plain {cs : List Char} (h : Plain cs) : IsValue cs := by
  induction cs with
  | nil => exact .nil
  | cons c cs ih =>
      obtain ⟨⟨hblank, hquote⟩, hcs⟩ := List.forall_mem_cons.1 h
      exact .char hblank hquote (ih hcs)

/-! ### Up to the next blank -/

section AtBlank

variable {rest : List Char} (hrest : atBlank rest = true)
include hrest

/-- What is at a blank starts with one. -/
theorem exists_of_atBlank : ∃ c cs, rest = c :: cs ∧ isBlank c = true := by
  cases rest with
  | nil => exact absurd hrest Bool.false_ne_true
  | cons c cs => exact ⟨c, cs, rfl, hrest⟩

/-- A text before a blank starts with a character only if it did without the blank. -/
theorem head?_append_ne {cs : List Char} {c : Char} (hc : isBlank c = false) (h : cs.head? ≠ some c) :
    (cs ++ rest).head? ≠ some c := by
  obtain ⟨b, bs, rfl, hb⟩ := exists_of_atBlank hrest
  cases cs with
  | nil =>
      rw [List.nil_append, List.head?_cons]
      exact fun heq => Text.ne_of_isBlank hb hc (Option.some.inj heq)
  | cons d cs => exact h

/-- Reading the characters of a class that has no blanks ends at a blank. -/
theorem takeWhile_append_atBlank {p : Char → Bool} (hp : ∀ c, isBlank c = true → p c = false)
    (cs : List Char) : (cs ++ rest).takeWhile p = cs.takeWhile p := by
  obtain ⟨b, bs, rfl, hb⟩ := exists_of_atBlank hrest
  induction cs with
  | nil => rw [List.nil_append, List.takeWhile_cons_of_neg (Bool.eq_false_iff.1 (hp b hb)), List.takeWhile_nil]
  | cons c cs ih => rw [List.cons_append, List.takeWhile_cons, List.takeWhile_cons, ih]

theorem dropWhile_append_atBlank {p : Char → Bool} (hp : ∀ c, isBlank c = true → p c = false)
    (cs : List Char) : (cs ++ rest).dropWhile p = cs.dropWhile p ++ rest := by
  obtain ⟨b, bs, rfl, hb⟩ := exists_of_atBlank hrest
  induction cs with
  | nil => rw [List.nil_append, List.dropWhile_cons_of_neg (Bool.eq_false_iff.1 (hp b hb)), List.dropWhile_nil,
      List.nil_append]
  | cons c cs ih =>
      rw [List.cons_append, List.dropWhile_cons, List.dropWhile_cons, ih]
      split
      · rfl
      · rfl

/-! ### Values -/

/-- **Values.** A value is read as it stands, up to the blank after it. -/
theorem readValue?_append {value : List Char} (h : IsValue value) :
    readValue? false (value ++ rest) = some (value, rest) := by
  have hquoted : ∀ {content cs : List Char}, '"' ∉ content →
      readValue? true (content ++ '"' :: cs)
        = (readValue? false cs).map (Prod.map (fun inner => content ++ '"' :: inner) id) := by
    intro content cs hcontent
    induction content with
    | nil => rw [List.nil_append, readValue?_cons fun _ => rfl, if_pos rfl]; rfl
    | cons c content ih =>
        rw [List.mem_cons, not_or] at hcontent
        rw [List.cons_append, readValue?_cons fun _ => rfl, if_neg (Ne.symm hcontent.1), ih hcontent.2,
          Option.map_map]
        rfl
  induction h with
  | nil =>
      obtain ⟨b, bs, rfl, hb⟩ := exists_of_atBlank hrest
      exact readValue?_blank hb bs
  | char hblank hquote _ ih =>
      rw [List.cons_append, readValue?_cons fun hb => absurd hb (Bool.eq_false_iff.1 hblank), if_neg hquote, ih]
      rfl
  | quoted hcontent _ ih =>
      rw [List.cons_append, List.append_assoc, List.cons_append,
        readValue?_cons fun hb => absurd hb (by decide), if_pos rfl, Bool.not_false, hquoted hcontent, ih]
      rfl

end AtBlank

/-! ### Comparisons -/

/-- The operators are those that have a symbol. -/
theorem mem_spellings_iff {spelling : List Char} {op : Operator} :
    (spelling, op) ∈ spellings ↔ Operator.ofSymbol? (String.ofList spelling) = some op := by
  constructor
  · have hall : ∀ entry ∈ spellings, Operator.ofSymbol? (String.ofList entry.1) = some entry.2 := by decide
    exact fun h => hall (spelling, op) h
  · intro h
    have hmem : ∀ {symbol : String} {entry : Operator}, (symbol.toList, entry) ∈ spellings →
        String.ofList spelling = symbol → some entry = some op → (spelling, op) ∈ spellings := by
      rintro symbol entry hentry rfl heq
      rwa [String.toList_ofList, Option.some.inj heq] at hentry
    rw [Operator.ofSymbol?.eq_def] at h
    split at h
    · next heq => exact hmem (by decide) heq h
    · next heq => exact hmem (by decide) heq h
    · next heq => exact hmem (by decide) heq h
    · next heq => exact hmem (by decide) heq h
    · next heq => exact hmem (by decide) heq h
    · next heq => exact hmem (by decide) heq h
    · next heq => exact hmem (by decide) heq h
    · exact absurd h (by simp)

/-- An operator starts with a character that no name has. -/
theorem exists_of_mem_spellings {entry : List Char × Operator} (h : entry ∈ spellings) :
    ∃ c cs, entry.1 = c :: cs ∧ isNameChar c = false ∧ isTextChar c = false := by
  have hall : ∀ entry ∈ spellings,
      entry.1.head?.any (fun c => !isNameChar c && !isTextChar c) = true := by decide
  have hhead := hall entry h
  cases hspelling : entry.1 with
  | nil => exact absurd hhead (by simp [hspelling])
  | cons c cs =>
      rw [hspelling, List.head?_cons, Option.any_some, Bool.and_eq_true, Bool.not_eq_true',
        Bool.not_eq_true'] at hhead
      exact ⟨c, cs, rfl, hhead⟩

section AtBlank

variable {rest : List Char} (hrest : atBlank rest = true)
include hrest

/-- The value after an operator is read as it stands. -/
theorem readComparison?_append (entry : List Char × Operator) {value : List Char} (h : IsValue value)
    (hne : value ≠ []) :
    readComparison? (entry.1 ++ value ++ rest) entry = some (entry.2, value, rest) := by
  have hstarts : entry.1.isPrefixOf (entry.1 ++ value ++ rest) = true := by
    rw [List.append_assoc]
    exact List.isPrefixOf_iff_prefix.2 (List.prefix_append _ _)
  rw [readComparison?_eq, if_pos hstarts, List.append_assoc, List.drop_left, readValue?_append hrest h,
    Option.filter_some, if_pos (by simpa using hne)]
  rfl

/-- Where an operator is read with a value, the text before the blank starts with it and leaves a value. -/
theorem exists_of_readComparison? {entry : List Char × Operator} (hentry : entry ∈ spellings)
    {cs : List Char} {found : Operator × List Char × List Char}
    (h : readComparison? (cs ++ rest) entry = some found) : ∃ value, SplitsInto cs entry.1 entry.2 value := by
  obtain ⟨b, bs, rfl, hb⟩ := exists_of_atBlank hrest
  rw [readComparison?_eq, Option.ite_none_right_eq_some] at h
  obtain ⟨hstarts, hread⟩ := h
  obtain ⟨value, rfl⟩ : entry.1 <+: cs := by
    have hspelled := List.isPrefixOf_iff_prefix.1 hstarts
    rcases List.prefix_or_prefix_of_prefix hspelled (List.prefix_append cs (b :: bs)) with hcs | ⟨more, heq⟩
    · exact hcs
    · cases more with
      | nil => exact ⟨[], by rw [← heq, List.append_nil, List.append_nil]⟩
      | cons d more =>
          -- The operator would reach over the blank.
          rw [← heq, List.prefix_append_right_inj, List.cons_prefix_cons] at hspelled
          have hplain := not_isBlank_spelling hentry d (by rw [← heq]; simp)
          rw [hspelled.1, hb] at hplain
          exact absurd hplain.symm Bool.false_ne_true
  refine ⟨value, mem_spellings_iff.1 hentry, rfl, ?_⟩
  rintro rfl
  rw [List.append_nil, List.drop_left, readValue?_blank hb] at hread
  exact absurd hread (by simp)

/-- **Comparisons.** Of the operators that a text starts with, the longest one is read that leaves a value. -/
theorem findSome?_of_isComparison {cs value : List Char} {op : Operator} (h : IsComparison cs op value)
    (hvalue : IsValue value) :
    spellings.findSome? (readComparison? (cs ++ rest)) = some (op, value, rest) := by
  obtain ⟨spelling, hsplits, hlongest⟩ := h
  obtain ⟨before, after, hspellings⟩ := List.append_of_mem (mem_spellings_iff.2 hsplits.spelled)
  refine List.findSome?_eq_some_iff.2 ⟨before, (spelling, op), after, hspellings, ?_, ?_⟩
  · rw [hsplits.eq_append]
    exact readComparison?_append hrest (spelling, op) hvalue hsplits.ne_nil
  · intro entry hentry
    rw [Option.eq_none_iff_forall_ne_some]
    intro found hfound
    have hmem : entry ∈ spellings := hspellings ▸ List.mem_append_left _ hentry
    obtain ⟨value', hsplits'⟩ := exists_of_readComparison? hrest hmem hfound
    -- An entry before this one is no shorter, so it would be the same.
    have hordered : spellings.Pairwise fun first second =>
        second.1.length ≤ first.1.length ∧ first.1 ≠ second.1 := by decide
    rw [hspellings, List.pairwise_append] at hordered
    obtain ⟨hle, hne⟩ := hordered.2.2 entry hentry (spelling, op) List.mem_cons_self
    have hlength := Nat.le_antisymm (hlongest _ _ _ hsplits') hle
    exact hne (List.append_inj_left (hsplits'.eq_append.symm.trans hsplits.eq_append) hlength)

/-- A comparison without quotes that is read is one. -/
theorem isComparison_of_findSome? {cs value rest' : List Char} {op : Operator} (hplain : Plain cs)
    (h : spellings.findSome? (readComparison? (cs ++ rest)) = some (op, value, rest')) :
    IsComparison cs op value ∧ rest' = rest := by
  obtain ⟨before, entry, after, hspellings, hread, hnone⟩ := List.findSome?_eq_some_iff.1 h
  have hvalue : ∀ {spelling op value}, SplitsInto cs spelling op value → IsValue value := by
    intro spelling op value hsplits
    refine IsValue.of_plain fun c hc => hplain c ?_
    rw [hsplits.eq_append]
    exact List.mem_append_right spelling hc
  have hmem : entry ∈ spellings := hspellings ▸ List.mem_append_right before List.mem_cons_self
  obtain ⟨value', hsplits⟩ := exists_of_readComparison? hrest hmem hread
  rw [hsplits.eq_append, readComparison?_append hrest entry (hvalue hsplits) hsplits.ne_nil,
    Option.some.injEq, Prod.mk.injEq, Prod.mk.injEq] at hread
  obtain ⟨rfl, rfl, rfl⟩ := hread
  refine ⟨⟨entry.1, hsplits, ?_⟩, rfl⟩
  intro other op' value hother
  have hfound : readComparison? (cs ++ rest) (other, op') ≠ none := by
    rw [hother.eq_append, readComparison?_append hrest (other, op') (hvalue hother) hother.ne_nil]
    exact Option.some_ne_none _
  have hordered : spellings.Pairwise fun first second => second.1.length ≤ first.1.length := by decide
  have hother := mem_spellings_iff.2 hother.spelled
  rw [hspellings, List.mem_append, List.mem_cons] at hother
  rcases hother with hbefore | rfl | hafter
  · exact absurd (hnone _ hbefore) hfound
  · exact Nat.le_refl _
  · rw [hspellings, List.pairwise_append, List.pairwise_cons] at hordered
    exact hordered.2.1.1 _ hafter

end AtBlank

/-! ### Tests -/

/-- A name has characters of names only. -/
theorem IsName.isNameChar {name : List Char} (h : IsName name) : ∀ c ∈ name, isNameChar c = true := by
  cases name with
  | nil => exact absurd h id
  | cons c cs =>
      have hc : Term.isNameChar c = true := by simp [Term.isNameChar, Char.isAlphanum, h.1]
      exact List.forall_mem_cons.2 ⟨hc, h.2⟩

/-- A comparison begins with a character that no name and no text has. -/
theorem IsComparison.exists_cons {cs value : List Char} {op : Operator} (h : IsComparison cs op value) :
    ∃ c ds, cs = c :: ds ∧ isNameChar c = false ∧ isTextChar c = false := by
  obtain ⟨spelling, hsplits, -⟩ := h
  obtain ⟨c, ds, rfl, hc⟩ := exists_of_mem_spellings (mem_spellings_iff.2 hsplits.spelled)
  exact ⟨c, ds ++ value, hsplits.eq_append, hc⟩

theorem readField?_cons (c : Char) (cs : List Char) :
    readField? (c :: cs)
      = if c.isAlpha then
          (spellings.findSome? (readComparison? ((c :: cs).dropWhile isNameChar))).map fun found =>
            (.field (String.ofList ((c :: cs).takeWhile isNameChar)) found.1 (String.ofList found.2.1),
              found.2.2)
        else none := by
  rw [readField?]
  cases spellings.findSome? (readComparison? ((c :: cs).dropWhile isNameChar)) with
  | none => cases c.isAlpha <;> rfl
  | some found => rfl

section AtBlank

variable {rest : List Char} (hrest : atBlank rest = true)
include hrest

/-- **Fields.** A test of a field is read as it stands, up to the blank after it. -/
theorem readField?_append {name comparison value : List Char} {op : Operator} (hname : IsName name)
    (hcomparison : IsComparison comparison op value) (hvalue : IsValue value) :
    readField? (name ++ comparison ++ rest)
      = some (.field (String.ofList name) op (String.ofList value), rest) := by
  obtain ⟨d, ds, rfl, hd, -⟩ := hcomparison.exists_cons
  have htake : (name ++ (d :: ds ++ rest)).takeWhile isNameChar = name := by
    rw [List.takeWhile_append_of_pos hname.isNameChar, List.cons_append,
      List.takeWhile_cons_of_neg (Bool.eq_false_iff.1 hd), List.append_nil]
  have hdrop : (name ++ (d :: ds ++ rest)).dropWhile isNameChar = d :: ds ++ rest := by
    rw [List.dropWhile_append_of_pos hname.isNameChar, List.cons_append,
      List.dropWhile_cons_of_neg (Bool.eq_false_iff.1 hd)]
  cases name with
  | nil => exact absurd hname id
  | cons c cs =>
      rw [List.cons_append] at htake hdrop
      rw [List.append_assoc, List.cons_append, readField?_cons, if_pos hname.1, htake, hdrop,
        findSome?_of_isComparison hrest hcomparison hvalue]
      rfl

/-- A test of a field without quotes that is read is one. -/
theorem exists_of_readField? {cs rest' : List Char} {test : Test} (hplain : Plain cs)
    (h : readField? (cs ++ rest) = some (test, rest')) :
    ∃ name comparison op value, cs = name ++ comparison ∧ IsName name ∧ IsComparison comparison op value
      ∧ test = .field (String.ofList name) op (String.ofList value) ∧ rest' = rest := by
  have htake := takeWhile_append_atBlank hrest isNameChar_blank cs
  have hdrop := dropWhile_append_atBlank hrest isNameChar_blank cs
  cases cs with
  | nil =>
      obtain ⟨b, bs, rfl, hb⟩ := exists_of_atBlank hrest
      have halpha : b.isAlpha = false := Text.forall_blank (by decide) b hb
      rw [List.nil_append, readField?_cons, if_neg (Bool.eq_false_iff.1 halpha)] at h
      exact absurd h (by simp)
  | cons c cs =>
      rw [List.cons_append] at htake hdrop
      rw [List.cons_append, readField?_cons, Option.ite_none_right_eq_some, htake, hdrop,
        Option.map_eq_some_iff] at h
      obtain ⟨halpha, ⟨op, value, rest''⟩, hfound, heq⟩ := h
      obtain ⟨rfl, rfl⟩ := Prod.mk.inj heq
      have hsplit : (c :: cs).takeWhile isNameChar ++ (c :: cs).dropWhile isNameChar = c :: cs :=
        List.takeWhile_append_dropWhile
      have hplain' : Plain ((c :: cs).dropWhile isNameChar) :=
        fun d hd => hplain d ((List.dropWhile_sublist _).subset hd)
      obtain ⟨hcomparison, rfl⟩ := isComparison_of_findSome? hrest hplain' hfound
      refine ⟨(c :: cs).takeWhile isNameChar, (c :: cs).dropWhile isNameChar, op, value, hsplit.symm, ?_,
        hcomparison, rfl, rfl⟩
      have hc : isNameChar c = true := by simp [isNameChar, Char.isAlphanum, halpha]
      rw [List.takeWhile_cons_of_pos hc]
      exact ⟨halpha, List.all_eq_true.1 List.all_takeWhile⟩

end AtBlank

end FeatureQuery.Term
