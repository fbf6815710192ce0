import FeatureQuery.Proofs.Cache.Keys
import FeatureQuery.Proofs.Text.Words

/-!
# Keys with different prefixes

A key is a prefix, which may be any text, a colon, and the parameters of a request as a JSON object. The colon
does not end the prefix, since there may be others before and after it. What ends it is the start of the
object: none of its later parts starts as the object of a key does, with a brace, a quote and an `n`. Outside
of strings there is no other brace. Inside one, the only quote that is not escaped is the one that ends it, and
after that comes a colon, a comma or the brace that ends the object. So a key can be cut into its parts in one
way only, whatever characters the prefix, the query and the order have.

## Main results

* `Json.infix_of_escaped`: no object of a key starts inside of a string.
* `Json.not_infix_of_flat`: no object of a key starts inside of another one.
* `cacheKey_eq_iff`: two keys are the same exactly if all parameters are.
* `normalizeQuery_idem`, `cacheKey_normalizeQuery`: so a query has the key of its normal form.
-/

namespace FeatureQuery

namespace Json

/-- What the object of every key starts with. -/
def keyStart : List Char :=
  ['\x7b', '"', 'n']

/-! ### Starts inside of a text -/

/-- The start of an object is not at a character other than a brace. -/
theorem infix_of_cons {c : Char} {rest : List Char} (hc : c ≠ '\x7b') (h : keyStart <:+: c :: rest) :
    keyStart <:+: rest := by
  rcases List.infix_cons_iff.1 h with hstarts | hlater
  · exact absurd (List.cons_prefix_cons.1 hstarts).1.symm hc
  · exact hlater

/-- The start of an object is not in a text without braces. -/
theorem infix_of_append {cs rest : List Char} (hcs : '\x7b' ∉ cs) (h : keyStart <:+: cs ++ rest) :
    keyStart <:+: rest := by
  induction cs with
  | nil => exact h
  | cons c cs ih =>
      rw [List.mem_cons, not_or] at hcs
      exact ih hcs.2 (infix_of_cons (Ne.symm hcs.1) h)

/-- A brace stands for itself, and no other character is written with one. -/
theorem escapedChar_of_brace_mem {c : Char} (h : '\x7b' ∈ escapedChar c) : escapedChar c = ['\x7b'] := by
  rcases escapedChar_cases c with hc | ⟨hc, -, -⟩
  · have hall : (specials.all fun c => !(escapedChar c).contains '\x7b') = true := by decide +kernel
    have hnone := List.all_eq_true.1 hall c hc
    rw [List.contains_iff_mem.2 h] at hnone
    exact absurd hnone (by decide)
  · rw [hc, List.mem_singleton] at h
    rw [hc, h]

/-- **Strings.** The start of an object is not inside of a string, nor is it made up by what follows the string,
unless that is an `n`. -/
theorem infix_of_escaped {cs rest : List Char} (hrest : rest.head? ≠ some 'n')
    (h : keyStart <:+: cs.flatMap escapedChar ++ '"' :: rest) : keyStart <:+: rest := by
  induction cs with
  | nil => exact infix_of_cons (by decide) h
  | cons c cs ih =>
      rw [List.flatMap_cons, List.append_assoc] at h
      by_cases hbrace : '\x7b' ∈ escapedChar c
      · rw [escapedChar_of_brace_mem hbrace] at h
        rcases List.infix_cons_iff.1 h with hstarts | hlater
        · -- The quote after the brace would have to be the one that ends the string.
          obtain ⟨more, hmore⟩ := (List.cons_prefix_cons.1 hstarts).2
          cases cs with
          | nil =>
              have hhead := congrArg List.head? (List.cons.inj hmore).2
              exact absurd hhead.symm hrest
          | cons d ds =>
              rw [List.flatMap_cons, List.append_assoc] at hmore
              exact absurd (congrArg List.head? hmore).symm (head?_escapedChar d _)
        · exact ih hlater
      · exact ih (infix_of_append hbrace h)

/-- The start of an object is not inside of a string literal. -/
theorem infix_of_literal {s : Option String} {rest : List Char} (hrest : rest.head? ≠ some 'n')
    (h : keyStart <:+: literal s ++ rest) : keyStart <:+: rest := by
  cases s with
  | none => exact infix_of_append (by decide) h
  | some s =>
      rw [literal, stringLiteral, List.append_assoc] at h
      exact infix_of_escaped hrest (infix_of_cons (by decide) h)

/-! ### Starts inside of an object -/

/-- The start of an object is not inside of a value that is neither an array nor an object. -/
theorem infix_of_scalar {value : Json} (hflat : value.depth = 0) {rest : List Char}
    (hrest : rest.head? ≠ some 'n') (h : keyStart <:+: value.compactChars ++ rest) : keyStart <:+: rest := by
  cases value with
  | null => exact infix_of_append (by decide) h
  | bool b =>
      cases b with
      | true => exact infix_of_append (by decide) h
      | false => exact infix_of_append (by decide) h
  | number n =>
      refine infix_of_append (fun hbrace => ?_) h
      exact absurd (isNumberChar_of_mem_text hbrace) (by decide)
  | string s => exact infix_of_literal hrest h
  | array items => exact absurd hflat (by simp [depth])
  | object fields => exact absurd hflat (by simp [depth])

/-- The start of an object is not inside of fields without arrays and objects. -/
theorem infix_of_fields {fields : List (Option String × Json)} (hflat : ∀ field ∈ fields, field.2.depth = 0)
    {rest : List Char}
    (h : keyStart <:+: (compactFields fields).flatMap (',' :: ·) ++ '\x7d' :: rest) : keyStart <:+: rest := by
  induction fields with
  | nil => exact infix_of_cons (by decide) h
  | cons field fields ih =>
      obtain ⟨name, value⟩ := field
      have hhead : ∀ {c : Char} (cs : List Char), c ≠ 'n' → (c :: cs).head? ≠ some 'n' :=
        fun _ hc hn => hc (Option.some.inj hn)
      have hmore : ((compactFields fields).flatMap (',' :: ·) ++ '\x7d' :: rest).head? ≠ some 'n' := by
        cases compactFields fields with
        | nil => exact hhead _ (by decide)
        | cons text texts => exact hhead _ (by decide)
      rw [compactFields, List.flatMap_cons, List.append_assoc, List.cons_append] at h
      have hname := infix_of_cons (by decide) h
      rw [List.append_assoc] at hname
      have hvalue := infix_of_cons (by decide) (infix_of_literal (hhead _ (by decide)) hname)
      refine ih (fun other hother => hflat other (List.mem_cons_of_mem _ hother)) ?_
      exact infix_of_scalar (hflat _ List.mem_cons_self) hmore hvalue

/-- **Objects.** The object of a key does not start anywhere inside of an object without arrays and objects. -/
theorem not_infix_of_flat {fields : List (Option String × Json)} (hne : fields ≠ [])
    (hflat : ∀ field ∈ fields, field.2.depth = 0) {cs : List Char}
    (h : (object fields).compactChars = '\x7b' :: cs) : ¬ keyStart <:+: cs := by
  intro hstart
  have hfields : compactFields fields ≠ [] := by
    rw [compactFields_eq]
    simpa using hne
  have hcs : ',' :: cs = (compactFields fields).flatMap (',' :: ·) ++ ['\x7d'] := by
    rw [compactChars, List.cons_append, List.cons.injEq] at h
    rw [flatMap_comma hfields, List.cons_append, h.2]
  have hnil := infix_of_fields hflat (hcs ▸ List.infix_cons hstart)
  exact absurd (List.infix_nil.1 hnil) (by decide)

end Json

/-! ### Keys -/

section Keys

variable {query query' : String} {spec spec' : SortSpec} {visibility visibility' : Visibility}
  {window window' : Window} {namesOnly namesOnly' : Bool}

/-- The object of every key starts alike. -/
theorem keyFields_starts (query : String) (spec : SortSpec) (visibility : Visibility) (window : Window)
    (namesOnly : Bool) :
    Json.keyStart <+: (keyFields query spec visibility window namesOnly).compactChars := by
  have hname : Json.literal (some "names_only") = ['"', 'n'] ++ "ames_only\"".toList := by decide +kernel
  rw [keyFields, Json.obj, List.map_cons, Json.compactChars, Json.compactFields, hname]
  exact ⟨_, rfl⟩

/-- The parameters of a request are neither arrays nor objects. -/
theorem depth_keyFields : ∃ fields, keyFields query spec visibility window namesOnly = .object fields
    ∧ fields ≠ [] ∧ ∀ field ∈ fields, field.2.depth = 0 := by
  refine ⟨_, rfl, List.cons_ne_nil _ _, ?_⟩
  obtain ⟨start, num⟩ := window
  cases num with
  | none => simp [Json.depth, Json.text, Json.int, Json.orNull]
  | some n => simp [Json.depth, Json.text, Json.int, Json.orNull]

/-- The object of a key does not start inside of the object of another one. -/
theorem keyFields_ne_append (cs : List Char) :
    (keyFields query spec visibility window namesOnly).compactChars
      ≠ cs ++ ':' :: (keyFields query' spec' visibility' window' namesOnly').compactChars := by
  intro h
  obtain ⟨fields, heq, hne, hflat⟩ := @depth_keyFields query spec visibility window namesOnly
  rw [heq] at h
  cases cs with
  | nil => exact absurd (List.cons.inj h).1 (by decide)
  | cons c cs =>
      obtain ⟨hc, -⟩ := List.cons.inj h
      rw [List.cons_append, ← hc] at h
      refine Json.not_infix_of_flat hne hflat h ?_
      have hstart := (keyFields_starts query' spec' visibility' window' namesOnly').isInfix
      exact hstart.trans ((List.suffix_cons ':' _).trans (List.suffix_append cs _)).isInfix

/-- Of two prefixes that make the same key, neither goes on where the other one ends. -/
theorem keyPrefix_eq {keyPrefix keyPrefix' : String}
    (h : cacheKey keyPrefix query spec visibility window namesOnly
      = cacheKey keyPrefix' query' spec' visibility' window' namesOnly') : keyPrefix = keyPrefix' := by
  have hchars := congrArg String.toList h
  have htext : ∀ (keyPrefix : String) (json : Json),
      (keyPrefix ++ ":" ++ json.compact).toList = keyPrefix.toList ++ ':' :: json.compactChars := by
    intro keyPrefix json
    simp [Json.compact, String.toList_append]
  rw [cacheKey, cacheKey, htext, htext, List.append_eq_append_iff] at hchars
  rcases hchars with ⟨cs, hbefore, hrest⟩ | ⟨cs, hbefore, hrest⟩
  · cases cs with
    | nil => exact String.toList_inj.1 (by rw [hbefore, List.append_nil])
    | cons c cs => exact absurd (List.cons.inj hrest).2 (keyFields_ne_append cs)
  · cases cs with
    | nil => exact String.toList_inj.1 (by rw [hbefore, List.append_nil])
    | cons c cs => exact absurd (List.cons.inj hrest).2 (keyFields_ne_append cs)

/-- **Keys.** Two keys are the same exactly if their prefixes are, and the normal forms of the queries, the
orders that were read, and everything else that the requests ask for. -/
theorem cacheKey_eq_iff {keyPrefix keyPrefix' sort sort' : String} :
    cacheKey keyPrefix query (.ofText sort) visibility window namesOnly
        = cacheKey keyPrefix' query' (.ofText sort') visibility' window' namesOnly'
      ↔ keyPrefix = keyPrefix' ∧ normalizeQuery query = normalizeQuery query'
        ∧ SortSpec.ofText sort = SortSpec.ofText sort' ∧ visibility = visibility' ∧ window = window'
        ∧ namesOnly = namesOnly' := by
  constructor
  · intro h
    obtain rfl := keyPrefix_eq h
    obtain ⟨hquery, hspec, hrest⟩ := cacheKey_inj h
    exact ⟨rfl, hquery, SortSpec.eq_of_display_eq hspec, hrest⟩
  · rintro ⟨rfl, hquery, hspec, rfl, rfl, rfl⟩
    rw [cacheKey, cacheKey, keyFields, keyFields, hquery, hspec]

end Keys

/-- A normal form is its own normal form. -/
theorem normalizeQuery_idem (query : String) : normalizeQuery (normalizeQuery query) = normalizeQuery query := by
  have hwords : ∀ word ∈ Text.words query.toList, word ≠ [] ∧ ∀ c ∈ word, Text.isBlank c = false := by
    intro word hmem
    have hne : word ≠ [] := by simpa using (List.mem_filter.1 hmem).2
    exact ⟨hne, fun c => Text.not_mem_of_mem_wordsBetween hmem⟩
  rw [normalizeQuery, normalizeQuery, String.toList_ofList, Text.words_joinWith hwords]

/-- A query has the key of its normal form. -/
theorem cacheKey_normalizeQuery (keyPrefix query : String) (spec : SortSpec) (visibility : Visibility)
    (window : Window) (namesOnly : Bool) :
    cacheKey keyPrefix (normalizeQuery query) spec visibility window namesOnly
      = cacheKey keyPrefix query spec visibility window namesOnly := by
  rw [cacheKey, keyFields, normalizeQuery_idem, cacheKey, keyFields]

end FeatureQuery
