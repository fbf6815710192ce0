import FeatureQuery.Cache.Key
import FeatureQuery.Proofs.Literal.Reading
import FeatureQuery.Proofs.Literal.Written
import FeatureQuery.Proofs.Text.Splitting
import FeatureQuery.Proofs.Text.Trimming

/-!
# Relative literals, looked for twice

Two parts of the program look for relative literals. Coercion finds them in the items of a list and in the
bounds of a range, and takes blanks and quotes off a bound twice. The cache takes the items of a list apart at
two dots and looks at the pieces, from which it takes blanks and quotes off only once. A relative literal holds
no comma, quote or dot, so the cache sees one in an item, and in a bound that does not stand in quotes:
splitting at commas leaves such a bound whole, at the start of the first item or at the end of the last one. A
bound in quotes it may miss.

## Main results

* `isRelativeChar_of_readRelative?`: the characters of relative literals.
* `readRelative?_item`, `readRelative?_low`, `readRelative?_high`: where the cache sees no relative literal,
  none is read from an item or from a bound without quotes.
* `ofRaw_eq_iff`: a value in which the cache sees no relative literal denotes the same in two contexts exactly
  if its quoted bounds do.
-/

namespace FeatureQuery.Literal

open FeatureQuery.Text (Blanks Closed Tight isBlank isDecimalDigit splitDots trim trimEnd)

/-! ### The characters of relative literals -/

/-- A character that may stand in a relative literal. -/
def isRelativeChar (c : Char) : Bool :=
  "nowcurrent_stable+-d".toList.contains c || isDecimalDigit c

theorem IsShift.isRelativeChar_sign {sign : Char} {forward : Bool} {amount : List Char}
    (h : IsShift sign forward amount) : isRelativeChar sign = true := by
  have hsign := h.sign
  rw [readSign?.eq_def] at hsign
  split at hsign
  · decide
  · decide
  · exact absurd hsign (by simp)

/-- A word with a shift and a unit after it consists of relative characters, if the word and the unit do. -/
theorem IsShift.isRelativeChar_of_mem {word amount unit : List Char} {sign : Char} {forward : Bool}
    (h : IsShift sign forward amount) (hword : ∀ c ∈ word, isRelativeChar c = true)
    (hunit : ∀ c ∈ unit, isRelativeChar c = true) :
    ∀ c ∈ word ++ sign :: (amount ++ unit), isRelativeChar c = true := by
  intro c hc
  simp only [List.mem_append, List.mem_cons] at hc
  rcases hc with hc | rfl | hc | hc
  · exact hword c hc
  · exact h.isRelativeChar_sign
  · rw [isRelativeChar, h.digits c hc, Bool.or_true]
  · exact hunit c hc

/-- A relative literal consists of relative characters, at least one of them. -/
theorem isRelativeChar_of_readRelative? {cs : List Char} {relative : Relative}
    (h : readRelative? cs = some relative) : cs ≠ [] ∧ ∀ c ∈ cs, isRelativeChar c = true := by
  have hnow : ∀ c ∈ ['n', 'o', 'w'], isRelativeChar c = true := List.all_eq_true.1 (by decide)
  have hstable : ∀ c ∈ "current_stable".toList, isRelativeChar c = true := List.all_eq_true.1 (by decide)
  cases readRelative?_eq_some_iff.1 h with
  | now => exact ⟨by simp, hnow⟩
  | days hshift => exact ⟨by simp, hshift.isRelativeChar_of_mem hnow (List.all_eq_true.1 (by decide))⟩
  | weeks hshift => exact ⟨by simp, hshift.isRelativeChar_of_mem hnow (List.all_eq_true.1 (by decide))⟩
  | stable => exact ⟨by simp, hstable⟩
  | milestones hshift =>
      refine ⟨by simp, ?_⟩
      have hall := hshift.isRelativeChar_of_mem hstable (List.forall_mem_nil _)
      rwa [List.append_nil] at hall

/-- Commas, quotes and dots never stand in a relative literal. -/
theorem not_mem_of_readRelative? {cs : List Char} {relative : Relative}
    (h : readRelative? cs = some relative) : ',' ∉ cs ∧ '"' ∉ cs ∧ '.' ∉ cs := by
  have hchars := (isRelativeChar_of_readRelative? h).2
  refine ⟨?_, ?_, ?_⟩
  · intro hmem
    exact absurd (hchars _ hmem) (by decide +kernel)
  · intro hmem
    exact absurd (hchars _ hmem) (by decide +kernel)
  · intro hmem
    exact absurd (hchars _ hmem) (by decide +kernel)

/-! ### Items and quotes -/

/-- There is at least one piece between commas. -/
theorem splitCommas_ne_nil (quoted : Bool) (cs : List Char) : splitCommas quoted cs ≠ [] := by
  cases cs with
  | nil => exact List.cons_ne_nil _ _
  | cons c cs =>
      rw [splitCommas]
      split
      · exact List.cons_ne_nil _ _
      · split
        · exact List.cons_ne_nil _ _
        · exact List.cons_ne_nil _ _

/-- A character that does not separate goes onto the first piece. -/
theorem splitCommas_cons {quoted : Bool} {c : Char} (h : ¬ (c = ',' ∧ quoted = false))
    (cs : List Char) :
    ∃ piece pieces, splitCommas (if c = '"' then !quoted else quoted) cs = piece :: pieces
      ∧ splitCommas quoted (c :: cs) = (c :: piece) :: pieces := by
  cases hcs : splitCommas (if c = '"' then !quoted else quoted) cs with
  | nil => exact absurd hcs (splitCommas_ne_nil _ cs)
  | cons piece pieces => exact ⟨piece, pieces, rfl, by rw [splitCommas, if_neg h, hcs]⟩

/-- Text without quotes goes onto the first piece, if it has no commas or is quoted. -/
theorem splitCommas_plain_append {before : List Char} {quoted : Bool} (hcomma : quoted = false → ',' ∉ before)
    (hquote : '"' ∉ before) (cs : List Char) :
    ∃ piece pieces, splitCommas quoted cs = piece :: pieces
      ∧ splitCommas quoted (before ++ cs) = (before ++ piece) :: pieces := by
  induction before with
  | nil =>
      cases hcs : splitCommas quoted cs with
      | nil => exact absurd hcs (splitCommas_ne_nil quoted cs)
      | cons piece pieces => exact ⟨piece, pieces, rfl, hcs⟩
  | cons c before ih =>
      simp only [List.mem_cons, not_or] at hcomma hquote
      obtain ⟨piece, pieces, hcs, hrest⟩ := ih (fun h => (hcomma h).2) hquote.2
      obtain ⟨first, others, htail, hall⟩ :=
        splitCommas_cons (fun h : c = ',' ∧ quoted = false => (hcomma h.2).1 h.1.symm) (before ++ cs)
      rw [if_neg (Ne.symm hquote.1), hrest, List.cons.injEq] at htail
      obtain ⟨rfl, rfl⟩ := htail
      exact ⟨piece, pieces, hcs, hall⟩

/-- Text without commas is one piece. -/
theorem splitCommas_of_not_mem {cs : List Char} (hcomma : ',' ∉ cs) (quoted : Bool) :
    splitCommas quoted cs = [cs] := by
  induction cs generalizing quoted with
  | nil => rfl
  | cons c cs ih =>
      rw [List.mem_cons, not_or] at hcomma
      obtain ⟨piece, pieces, htail, hall⟩ :=
        splitCommas_cons (fun h : c = ',' ∧ quoted = false => hcomma.1 h.1.symm) cs
      rw [ih hcomma.2, List.cons.injEq] at htail
      obtain ⟨rfl, rfl⟩ := htail
      exact hall

/-- Text without commas goes onto the last piece, which is all of the text before if there is no other. -/
theorem splitCommas_append {after : List Char} (hcomma : ',' ∉ after) (quoted : Bool)
    (cs : List Char) :
    ∃ pieces last, last <:+ cs ∧ (pieces = [] → last = cs)
      ∧ splitCommas quoted (cs ++ after) = pieces ++ [last ++ after] := by
  induction cs generalizing quoted with
  | nil => exact ⟨[], [], List.nil_suffix, fun _ => rfl, splitCommas_of_not_mem hcomma quoted⟩
  | cons c cs ih =>
      by_cases hsep : c = ',' ∧ quoted = false
      · obtain ⟨pieces, last, hsuffix, -, heq⟩ := ih false
        refine ⟨[] :: pieces, last, hsuffix.trans (List.suffix_cons c cs),
          fun h => absurd h (List.cons_ne_nil _ _), ?_⟩
        rw [List.cons_append, splitCommas, if_pos hsep, heq, List.cons_append]
      · obtain ⟨first, others, htail, hall⟩ := splitCommas_cons hsep (cs ++ after)
        obtain ⟨pieces, last, hsuffix, honly, heq⟩ := ih (if c = '"' then !quoted else quoted)
        rw [htail] at heq
        cases pieces with
        | nil =>
            obtain rfl := honly rfl
            rw [List.nil_append, List.cons.injEq] at heq
            obtain ⟨rfl, rfl⟩ := heq
            exact ⟨[], c :: last, List.suffix_rfl, fun _ => rfl, hall⟩
        | cons piece pieces =>
            rw [List.cons_append, List.cons.injEq] at heq
            obtain ⟨rfl, rfl⟩ := heq
            exact ⟨(c :: first) :: pieces, last, hsuffix.trans (List.suffix_cons c cs),
              fun h => absurd h (List.cons_ne_nil _ _), hall⟩

/-- A text that does not start with a quote keeps its quotes. -/
theorem unquote_of_head {cs : List Char} (h : cs.head? ≠ some '"') : unquote cs = cs := by
  cases cs with
  | nil => rfl
  | cons c cs =>
      rw [unquote.eq_def]
      split
      · next heq =>
          obtain ⟨rfl, rfl⟩ := List.cons.inj heq
          exact absurd rfl h
      · rfl

/-- A text that does not end with a quote keeps its quotes. -/
theorem unquote_of_last {cs : List Char} (h : cs.getLast? ≠ some '"') : unquote cs = cs := by
  cases cs with
  | nil => rfl
  | cons c cs =>
      rw [unquote.eq_def]
      split
      · next inner heq =>
          obtain ⟨rfl, rfl⟩ := List.cons.inj heq
          rw [if_neg]
          intro hlast
          refine h ?_
          cases cs with
          | nil => exact absurd hlast (by simp)
          | cons d cs => rwa [List.getLast?_cons_cons]
      · rfl

/-- A text is what is taken out of its quotes, or has that between two quotes. -/
theorem unquote_cases (cs : List Char) : unquote cs = cs ∨ cs = '"' :: (unquote cs ++ ['"']) := by
  rw [unquote.eq_def]
  split
  · next inner =>
      split
      · next hlast =>
          have hdrop := List.dropLast_append_getLast? '"' hlast
          exact Or.inr (by rw [hdrop])
      · exact Or.inl rfl
  · exact Or.inl rfl

/-! ### What the cache sees -/

/-- A comma, a quote or a dot is no blank. -/
theorem not_isBlank_marks : isBlank ',' = false ∧ isBlank '"' = false ∧ isBlank '.' = false := by
  decide

/-- Blanks hold no character that is not blank. -/
theorem not_mem_blanks {cs : List Char} {c : Char} (h : Blanks cs) (hc : isBlank c = false) : c ∉ cs :=
  fun hmem => absurd (h c hmem) (by simp [hc])

/-- A character that is not blank stands in a text exactly if it stands in the trimmed text. -/
theorem mem_trim_iff {cs : List Char} {c : Char} (hc : isBlank c = false) : c ∈ trim cs ↔ c ∈ cs := by
  obtain ⟨before, after, hbefore, hafter, heq⟩ := Text.exists_trim cs
  constructor
  · intro hmem
    rw [heq]
    exact List.mem_append_right _ (List.mem_append_left _ hmem)
  · intro hmem
    rw [heq] at hmem
    rcases List.mem_append.1 hmem with hmem | hmem
    · exact absurd hmem (not_mem_blanks hbefore hc)
    · exact (List.mem_append.1 hmem).resolve_right (not_mem_blanks hafter hc)

/-- Where the cache sees no relative literal, none is a piece of an item. -/
theorem readRelative?_piece {raw : String} (h : Term.hasRelative raw = false) {item piece : List Char}
    (hitem : item ∈ splitList raw.toList) (hpiece : piece ∈ splitDots item) :
    readRelative? (unquote (trim piece)) = none := by
  have hnone := List.any_eq_false.1 h piece (List.mem_flatMap.2 ⟨item, hitem, hpiece⟩)
  rwa [isRelative, Option.not_isSome_iff_eq_none] at hnone

/-- **Items.** Where the cache sees no relative literal, none is an item. -/
theorem readRelative?_item {raw : String} (h : Term.hasRelative raw = false) {item : List Char}
    (hitem : item ∈ splitList raw.toList) : readRelative? (unquote (trim item)) = none := by
  cases hread : readRelative? (unquote (trim item)) with
  | none => rfl
  | some relative =>
      have hdot : '.' ∉ item := by
        intro hmem
        have htrim := (mem_trim_iff not_isBlank_marks.2.2).2 hmem
        refine (not_mem_of_readRelative? hread).2.2 ?_
        rcases unquote_cases (trim item) with heq | heq
        · rwa [heq]
        · rw [heq, List.mem_cons, List.mem_append, List.mem_singleton] at htrim
          rcases htrim with hquote | hin | hquote
          · exact absurd hquote (by decide)
          · exact hin
          · exact absurd hquote (by decide)
      have hpiece : item ∈ splitDots item := by
        rw [Text.splitDots_of_not_mem hdot]
        exact List.mem_singleton_self item
      rw [← hread]
      exact readRelative?_piece h hitem hpiece

/-- The trimmed part of a text that is relative holds no marks, and the text holds none either. -/
theorem not_mem_of_relative_trim {cs : List Char} {relative : Relative}
    (h : readRelative? (trim cs) = some relative) : ',' ∉ cs ∧ '"' ∉ cs ∧ '.' ∉ cs := by
  obtain ⟨hcomma, hquote, hdot⟩ := not_mem_of_readRelative? h
  obtain ⟨hblankComma, hblankQuote, hblankDot⟩ := not_isBlank_marks
  rw [mem_trim_iff hblankComma] at hcomma
  rw [mem_trim_iff hblankQuote] at hquote
  rw [mem_trim_iff hblankDot] at hdot
  exact ⟨hcomma, hquote, hdot⟩

/-- A relative literal neither starts nor ends with a quote. -/
theorem ends_of_readRelative? {cs : List Char} {relative : Relative}
    (h : readRelative? cs = some relative) : cs.head? ≠ some '"' ∧ cs.getLast? ≠ some '"' := by
  have hquote := (not_mem_of_readRelative? h).2.1
  constructor
  · intro hhead
    exact hquote (List.mem_of_head? hhead)
  · intro hlast
    exact hquote (List.mem_of_getLast? hlast)

/-- Two dots are tight. -/
theorem tight_dots : Tight ['.', '.'] where
  head c hc := by
    obtain rfl : '.' = c := Option.some.inj hc
    exact not_isBlank_marks.2.2
  last c hc := by
    obtain rfl : '.' = c := Option.some.inj hc
    exact not_isBlank_marks.2.2

/-- Where the cache sees no relative literal, the lower bound is none unless it stands in quotes. Otherwise it
would stand whole at the start of the first item. -/
theorem readRelative?_low {raw : String} (h : Term.hasRelative raw = false) {low high : List Char}
    (hdots : splitDots raw.toList = [low, high]) : readRelative? (trim low) = none := by
  cases hread : readRelative? (trim low) with
  | none => rfl
  | some relative =>
      obtain ⟨-, hraw⟩ := Text.splitDots_eq_pair hdots
      obtain ⟨hcomma, hquote, hdot⟩ := not_mem_of_relative_trim hread
      obtain ⟨hhead, -⟩ := ends_of_readRelative? hread
      have hne := (isRelativeChar_of_readRelative? hread).1
      obtain ⟨after, hafter, hstart⟩ := Text.exists_trimStart_eq low
      obtain ⟨piece, pieces, -, hsplit⟩ := splitCommas_plain_append
        (fun _ : false = false => show ',' ∉ low ++ ['.', '.'] by simpa using hcomma)
        (show '"' ∉ low ++ ['.', '.'] by simpa using hquote) high
      rw [List.append_assoc, List.append_assoc] at hsplit
      have hitem : (trim low ++ after) ++ '.' :: '.' :: trimEnd piece ∈ splitList raw.toList := by
        rw [splitList, List.mem_filter, List.mem_map]
        refine ⟨⟨low ++ (['.', '.'] ++ piece), ?_, ?_⟩, by simp⟩
        · rw [hraw]
          exact hsplit ▸ List.mem_cons_self
        · rw [Text.trim_around tight_dots (List.cons_ne_nil _ _), hstart]
          refine unquote_of_head ?_
          rwa [List.append_assoc, List.head?_append_of_ne_nil _ hne]
      have hpiece : trim low ++ after ∈ splitDots ((trim low ++ after) ++ '.' :: '.' :: trimEnd piece) := by
        have hclosed : Closed (trim low ++ after) := Text.closed_of_not_mem fun hmem => hdot <| by
          rw [← hstart] at hmem
          exact (List.dropWhile_sublist _).subset hmem
        rw [Text.splitDots_closed hclosed]
        exact List.mem_cons_self
      have hbound := readRelative?_piece h hitem hpiece
      have hpadded := Text.trim_padded Text.blanks_nil (Text.tight_trim low) hafter
      rw [List.nil_append] at hpadded
      rw [hpadded, unquote_of_head hhead] at hbound
      rw [← hread, hbound]

/-- Where the cache sees no relative literal, the upper bound is none unless it stands in quotes. Otherwise it
would stand whole at the end of the last item. -/
theorem readRelative?_high {raw : String} (h : Term.hasRelative raw = false) {low high : List Char}
    (hdots : splitDots raw.toList = [low, high]) : readRelative? (trim high) = none := by
  cases hread : readRelative? (trim high) with
  | none => rfl
  | some relative =>
      obtain ⟨hclosed, hraw⟩ := Text.splitDots_eq_pair hdots
      obtain ⟨hcomma, -, hdot⟩ := not_mem_of_relative_trim hread
      obtain ⟨-, hlast⟩ := ends_of_readRelative? hread
      have hne := (isRelativeChar_of_readRelative? hread).1
      obtain ⟨before, hbefore, hend⟩ := Text.exists_trimEnd_eq high
      obtain ⟨pieces, last, hsuffix, -, hsplit⟩ := splitCommas_append
        (show ',' ∉ ['.', '.'] ++ high by simpa using hcomma) false low
      have hitem : Text.trimStart last ++ '.' :: '.' :: (before ++ trim high) ∈ splitList raw.toList := by
        rw [splitList, List.mem_filter, List.mem_map]
        refine ⟨⟨last ++ (['.', '.'] ++ high), ?_, ?_⟩, by simp⟩
        · rw [hraw]
          exact hsplit ▸ List.mem_append_right _ (List.mem_singleton_self _)
        · rw [Text.trim_around tight_dots (List.cons_ne_nil _ _), hend]
          refine unquote_of_last fun hquote => hlast ?_
          rwa [← List.append_assoc, ← List.append_assoc, List.getLast?_append_of_ne_nil _ hne] at hquote
      have hpiece : before ++ trim high
          ∈ splitDots (Text.trimStart last ++ '.' :: '.' :: (before ++ trim high)) := by
        have hplain : '.' ∉ before ++ trim high := by
          intro hmem
          refine hdot ?_
          rw [← hend] at hmem
          obtain ⟨after, -, heq⟩ := Text.exists_trimEnd high
          rw [heq]
          exact List.mem_append_left _ hmem
        have hstart : Closed (Text.trimStart last) :=
          hclosed.of_suffix ((List.dropWhile_suffix _).trans hsuffix)
        rw [Text.splitDots_closed hstart, Text.splitDots_of_not_mem hplain]
        exact List.mem_cons_of_mem _ List.mem_cons_self
      have hbound := readRelative?_piece h hitem hpiece
      have hpadded := Text.trim_padded hbefore (Text.tight_trim high) Text.blanks_nil
      rw [List.append_nil] at hpadded
      rw [hpadded, unquote_of_last hlast] at hbound
      rw [← hread, hbound]

/-! ### Quoted bounds -/

/-- The bounds of a text that denotes a range, without the blanks around them. -/
def bounds? (raw : List Char) : Option (List Char × List Char) :=
  match splitDots raw with
  | [low, high] =>
    if (unquote (trim low)).isEmpty || (unquote (trim high)).isEmpty then none
    else some (trim low, trim high)
  | _ => none

/-- The bounds of a range that stand in quotes denote the same in two contexts. -/
def QuotedBoundsAgree (context other : Context) (raw : List Char) : Prop :=
  ∀ low high, bounds? raw = some (low, high) → ∀ bound ∈ [low, high], unquote bound ≠ bound →
    scalar context (unquote bound) = scalar other (unquote bound)

/-- What is not relative denotes the same in all contexts. -/
theorem scalar_eq_of_not_relative {item : List Char} (h : readRelative? (unquote (trim item)) = none)
    (context other : Context) : scalar context item = scalar other item := by
  rw [scalar, scalar, h]

/-- A bound without quotes that is not relative denotes the same in all contexts. -/
theorem scalar_bound_eq {bound : List Char} (htight : Tight bound) (hplain : unquote bound = bound)
    (h : readRelative? bound = none) (context other : Context) :
    scalar context (unquote bound) = scalar other (unquote bound) := by
  refine scalar_eq_of_not_relative ?_ context other
  rw [hplain, Text.trim_of_tight htight, hplain, h]

/-- A value without two bounds in which the cache sees no relative literal denotes the same in all contexts. -/
theorem ofRaw_eq_of_list {raw : String} (h : Term.hasRelative raw = false)
    (hlength : (splitDots raw.toList).length ≠ 2) (context other : Context) :
    ofRaw context raw.toList = ofRaw other raw.toList := by
  have hlist : ∀ context, ofRaw context raw.toList
      = if splitList raw.toList = [] then [.text ""] else (splitList raw.toList).map (scalar context) := by
    intro context
    rcases ofRaw_cases context raw.toList with ⟨low, high, hdots, -⟩ | ⟨-, ⟨hnil, heq⟩ | ⟨hne, heq⟩⟩
    · exact absurd (by rw [hdots]; rfl) hlength
    · rw [heq, if_pos hnil]
    · rw [heq, if_neg hne]
  rw [hlist context, hlist other]
  refine congrArg (ite _ _) (List.map_congr_left fun item hitem => ?_)
  exact scalar_eq_of_not_relative (readRelative?_item h hitem) context other

/-- **Values.** A value in which the cache sees no relative literal denotes the same in two contexts exactly if
the bounds that stand in quotes do. -/
theorem ofRaw_eq_iff {raw : String} (h : Term.hasRelative raw = false) (context other : Context) :
    ofRaw context raw.toList = ofRaw other raw.toList ↔ QuotedBoundsAgree context other raw.toList := by
  rcases ofRaw_cases context raw.toList with ⟨low, high, hdots, heq⟩ | ⟨hlength, -⟩
  · have hother : ofRaw other raw.toList = [ofBounds other raw.toList low high] := by
      rw [ofRaw, hdots]
    rw [heq, hother, List.cons.injEq]
    simp only [and_true, QuotedBoundsAgree, bounds?, hdots]
    rw [ofBounds, ofBounds]
    by_cases hmissing : ((unquote (trim low)).isEmpty || (unquote (trim high)).isEmpty) = true
    · rw [if_pos hmissing, if_pos hmissing, if_pos hmissing]
      exact iff_of_true rfl fun _ _ hnone => absurd hnone (by simp)
    · rw [if_neg hmissing, if_neg hmissing, if_neg hmissing, range.injEq]
      have hplain : ∀ bound, bound = trim low ∨ bound = trim high → unquote bound = bound →
          scalar context (unquote bound) = scalar other (unquote bound) := by
        intro bound hbound hquote
        rcases hbound with rfl | rfl
        · exact scalar_bound_eq (Text.tight_trim low) hquote (readRelative?_low h hdots) context other
        · exact scalar_bound_eq (Text.tight_trim high) hquote (readRelative?_high h hdots) context other
      constructor
      · rintro ⟨hlow, hhigh⟩ l u hbounds bound hbound -
        obtain ⟨rfl, rfl⟩ := Prod.mk.inj (Option.some.inj hbounds)
        rcases List.mem_cons.1 hbound with rfl | hbound
        · exact hlow
        · rw [List.mem_singleton.1 hbound]
          exact hhigh
      · intro hagree
        have hbound : ∀ bound ∈ [trim low, trim high],
            scalar context (unquote bound) = scalar other (unquote bound) := by
          intro bound hbound
          by_cases hquote : unquote bound = bound
          · refine hplain bound ?_ hquote
            simpa using hbound
          · exact hagree _ _ rfl bound hbound hquote
        exact ⟨hbound _ List.mem_cons_self, hbound _ (List.mem_cons_of_mem _ List.mem_cons_self)⟩
  · have hnone : bounds? raw.toList = none := by
      rw [bounds?]
      split
      · next low high hdots => exact absurd (by rw [hdots]; rfl) hlength
      · rfl
    have hagree : QuotedBoundsAgree context other raw.toList := by
      intro low high hbounds
      exact absurd (hnone.symm.trans hbounds) (by simp)
    exact iff_of_true (ofRaw_eq_of_list h hlength context other) hagree

end FeatureQuery.Literal
