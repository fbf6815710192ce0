import FeatureQuery.Proofs.Json.Numbers
import Mathlib.Tactic.IntervalCases

/-!
# Reading JSON back

The text of a value on one line is read as the value, if the numbers in it are within the range that JSON numbers are
kept in. Every reader of a part finds the part at the start of the text and leaves what stands after it: a string ends
with its quote, arrays and objects end with their brackets, and a number ends before whatever may follow a value.

## Main results

* `exists_string?`: string literals are read back, also those that denote no text.
* `value?_compactChars`: values are read back, and what stands after them is left.
* `read?_compact`: a text that holds nothing else is read as its value.
-/

namespace FeatureQuery.Json

/-- A reader finds a value at the start of a text and leaves the rest. -/
def Finds {α : Type} {cs : List Char} (found : Option (α × Shorter cs)) (value : α) (rest : List Char) : Prop :=
  ∃ h : rest.length < cs.length, found = some (value, ⟨rest, h⟩)

/-! ### Strings -/

/-- An escape that stands for a character: by a letter, or by the code of the character. -/
inductive IsEscape (c : Char) : List Char → Prop
  | letter (x : Char) (hletter : x ≠ 'u') (h : escape? x = some c) : IsEscape c ['\\', x]
  | code (w x y z : Char) (h : hexPiece? w x y z = some (.char c)) : IsEscape c ['\\', 'u', w, x, y, z]

/-- The characters that are escaped have escapes that stand for them. -/
theorem isEscape_of_special {c : Char} (h : c ∈ specials) : IsEscape c (escapedChar c) := by
  rcases List.mem_cons.1 h with rfl | h
  · exact .letter '"' (by decide) rfl
  rcases List.mem_cons.1 h with rfl | h
  · exact .letter '\\' (by decide) rfl
  obtain ⟨n, hn, rfl⟩ := List.mem_map.1 h
  have hn := List.mem_range.1 hn
  interval_cases n
  all_goals first | exact .letter _ (by decide) rfl | exact .code _ _ _ _ rfl

/-- A character without an escape is no control character. -/
theorem le_of_not_special {c : Char} (h : c ∉ specials) : 0x20 ≤ c.toNat := by
  by_contra hlt
  refine h (List.mem_cons_of_mem _ (List.mem_cons_of_mem _ (List.mem_map.2 ⟨c.toNat, ?_, Char.ofNat_toNat c⟩)))
  exact List.mem_range.2 (Nat.not_le.1 hlt)

section Pieces

variable {cs rest : List Char} {pieces : List Piece} (hcs : readString? cs = some (pieces, rest))

include hcs

/-- An escape is read as its character. -/
theorem IsEscape.readString? {c : Char} {escape : List Char} (h : IsEscape c escape) :
    readString? (escape ++ cs) = some (.char c :: pieces, rest) := by
  cases h with
  | letter x hletter h =>
      rw [List.cons_append, List.singleton_append, Json.readString?, h]
      · simp [hcs]
      · rintro a b c d rest heq -
        exact hletter heq
  | code w x y z h =>
      have heq : ['\\', 'u', w, x, y, z] ++ cs = '\\' :: 'u' :: w :: x :: y :: z :: cs := rfl
      rw [heq, Json.readString?, h]
      simp [hcs]

/-- A character is read back from what is written for it. -/
theorem readString?_escapedChar (c : Char) : readString? (escapedChar c ++ cs) = some (.char c :: pieces, rest) := by
  by_cases hspecial : c ∈ specials
  · exact IsEscape.readString? hcs (isEscape_of_special hspecial)
  · obtain ⟨hself, hquote, hslash⟩ := (escapedChar_cases c).resolve_left hspecial
    rw [hself, List.singleton_append, readString?]
    · rw [if_neg (Nat.not_lt.2 (le_of_not_special hspecial))]
      simp [hcs]
    · exact hquote
    · rintro _ _ _ _ _ heq -
      exact hslash heq
    · rintro _ _ heq -
      exact hslash heq

end Pieces

/-- Characters are read back up to the quote after them. -/
theorem readString?_escaped (cs rest : List Char) :
    readString? (cs.flatMap escapedChar ++ '"' :: rest) = some (cs.map Piece.char, rest) := by
  induction cs with
  | nil => rw [List.flatMap_nil, List.nil_append, readString?, List.map_nil]
  | cons c cs ih =>
      rw [List.flatMap_cons, List.append_assoc]
      exact readString?_escapedChar ih c

/-- Characters denote the text that they are. -/
theorem textOf?_chars (cs : List Char) : textOf? (cs.map Piece.char) = some cs := by
  induction cs with
  | nil => rfl
  | cons c cs ih => rw [List.map_cons, textOf?, ih, Option.map_some]

/-- A string literal is found with the text of its pieces. -/
theorem finds_string? {cs rest : List Char} {pieces : List Piece} (h : readString? cs = some (pieces, rest)) :
    Finds (string? cs) ((textOf? pieces).map String.ofList) rest := by
  refine ⟨length_lt_of_readString? h, ?_⟩
  rw [string?]
  split
  · next hnone => exact absurd (hnone.symm.trans h) (by simp)
  · next hsome =>
      obtain ⟨rfl, rfl⟩ := Prod.mk.inj (Option.some.inj (hsome.symm.trans h))
      rfl

/-- A string literal is read back. -/
theorem exists_string? (s : Option String) (rest : List Char) :
    ∃ body, literal s ++ rest = '"' :: body ∧ Finds (string? body) s rest := by
  cases s with
  | none =>
      have hread : readString? ('\\' :: 'u' :: 'd' :: '8' :: '0' :: '0' :: '"' :: rest)
          = some ([.half 0xD800], rest) := by
        rw [readString?, readString?]
        rfl
      exact ⟨_, rfl, finds_string? hread⟩
  | some s =>
      refine ⟨s.toList.flatMap escapedChar ++ '"' :: rest, ?_, ?_⟩
      · rw [literal, stringLiteral, List.cons_append, List.cons_append, List.append_assoc]
        rfl
      · have hread := finds_string? (readString?_escaped s.toList rest)
        rw [textOf?_chars, Option.map_some, String.ofList_toList] at hread
        exact hread

/-! ### Readers of values -/

section Readers

variable {cs start rest : List Char}

/-- A quote starts a string. -/
theorem value?_string {s : Option String} (h : skipGap cs = '"' :: start) (hs : Finds (string? start) s rest) :
    Finds (value? cs) (.string s) rest := by
  obtain ⟨hlt, hs⟩ := hs
  refine ⟨Nat.lt_trans hlt (length_lt_of_skipGap h), ?_⟩
  rw [value?]
  split
  · next heq => exact absurd (h.symm.trans heq) (by simp)
  · next heq =>
      obtain rfl := (List.cons.inj (h.symm.trans heq)).2
      rw [hs]
      rfl
  · next heq => exact absurd (List.cons.inj (h.symm.trans heq)).1 (by decide)
  · next heq => exact absurd (List.cons.inj (h.symm.trans heq)).1 (by decide)
  · next hquote _ _ => exact absurd h (hquote _)

/-- A bracket starts an array, which has no items if the next one closes it. -/
theorem value?_array {items : List Json} (h : skipGap cs = '[' :: start)
    (hitems : (items = [] ∧ skipGap start = ']' :: rest)
      ∨ ((∀ after, skipGap start ≠ ']' :: after) ∧ Finds (items? start) items rest)) :
    Finds (value? cs) (.array items) rest := by
  have hlt : rest.length < start.length := by
    rcases hitems with ⟨-, hclose⟩ | ⟨-, hlt, -⟩
    · exact length_lt_of_skipGap hclose
    · exact hlt
  refine ⟨Nat.lt_trans hlt (length_lt_of_skipGap h), ?_⟩
  rw [value?]
  split
  · next heq => exact absurd (h.symm.trans heq) (by simp)
  · next heq => exact absurd (List.cons.inj (h.symm.trans heq)).1 (by decide)
  · next heq =>
      obtain rfl := (List.cons.inj (h.symm.trans heq)).2
      rcases hitems with ⟨rfl, hclose⟩ | ⟨hopen, _, hitems⟩
      · split
        · next hclosed =>
            obtain rfl := (List.cons.inj (hclose.symm.trans hclosed)).2
            rfl
        · next hopen => exact absurd hclose (hopen _)
      · split
        · next hclosed => exact absurd hclosed (hopen _)
        · rw [hitems]
          rfl
  · next heq => exact absurd (List.cons.inj (h.symm.trans heq)).1 (by decide)
  · next _ harray _ => exact absurd h (harray _)

/-- A brace starts an object, which has no fields if the next one closes it. -/
theorem value?_object {fields : List (Option String × Json)} (h : skipGap cs = '\x7b' :: start)
    (hfields : (fields = [] ∧ skipGap start = '\x7d' :: rest)
      ∨ ((∀ after, skipGap start ≠ '\x7d' :: after) ∧ Finds (fields? start) fields rest)) :
    Finds (value? cs) (.object fields) rest := by
  have hlt : rest.length < start.length := by
    rcases hfields with ⟨-, hclose⟩ | ⟨-, hlt, -⟩
    · exact length_lt_of_skipGap hclose
    · exact hlt
  refine ⟨Nat.lt_trans hlt (length_lt_of_skipGap h), ?_⟩
  rw [value?]
  split
  · next heq => exact absurd (h.symm.trans heq) (by simp)
  · next heq => exact absurd (List.cons.inj (h.symm.trans heq)).1 (by decide)
  · next heq => exact absurd (List.cons.inj (h.symm.trans heq)).1 (by decide)
  · next heq =>
      obtain rfl := (List.cons.inj (h.symm.trans heq)).2
      rcases hfields with ⟨rfl, hclose⟩ | ⟨hopen, _, hfields⟩
      · split
        · next hclosed =>
            obtain rfl := (List.cons.inj (hclose.symm.trans hclosed)).2
            rfl
        · next hopen => exact absurd hclose (hopen _)
      · split
        · next hclosed => exact absurd hclosed (hopen _)
        · rw [hfields]
          rfl
  · next _ _ hobject => exact absurd h (hobject _)

/-- Other characters start a scalar. -/
theorem value?_scalar {c : Char} {j : Json} (h : skipGap cs = c :: start)
    (hc : c ≠ '"' ∧ c ≠ '[' ∧ c ≠ '\x7b') (hj : scalar? (c :: start) = some (j, rest))
    (hlt : rest.length < cs.length) : Finds (value? cs) j rest := by
  refine ⟨hlt, ?_⟩
  rw [value?]
  split
  · next heq => exact absurd (h.symm.trans heq) (by simp)
  · next heq => exact absurd (List.cons.inj (h.symm.trans heq)).1 hc.1
  · next heq => exact absurd (List.cons.inj (h.symm.trans heq)).1 hc.2.1
  · next heq => exact absurd (List.cons.inj (h.symm.trans heq)).1 hc.2.2
  · rw [h, hj]
    exact dif_pos hlt

/-- After an item the array is closed, or there is a comma with more items after it. -/
theorem items?_cons {item : Json} {items : List Json} (hitem : Finds (value? cs) item start)
    (hitems : (items = [] ∧ skipGap start = ']' :: rest)
      ∨ ∃ next, skipGap start = ',' :: next ∧ Finds (items? next) items rest) :
    Finds (items? cs) (item :: items) rest := by
  obtain ⟨hlt, hitem⟩ := hitem
  have hlast : rest.length < start.length := by
    rcases hitems with ⟨-, hclose⟩ | ⟨next, hcomma, hnext, -⟩
    · exact length_lt_of_skipGap hclose
    · exact Nat.lt_trans hnext (length_lt_of_skipGap hcomma)
  refine ⟨Nat.lt_trans hlast hlt, ?_⟩
  rw [items?, hitem]
  dsimp only
  rcases hitems with ⟨rfl, hclose⟩ | ⟨next, hcomma, _, hitems⟩
  · split
    · next heq =>
        obtain rfl := (List.cons.inj (hclose.symm.trans heq)).2
        rfl
    · next heq => exact absurd (List.cons.inj (hclose.symm.trans heq)).1 (by decide)
    · next hclosed _ => exact absurd hclose (hclosed _)
  · split
    · next heq => exact absurd (List.cons.inj (hcomma.symm.trans heq)).1 (by decide)
    · next heq =>
        obtain rfl := (List.cons.inj (hcomma.symm.trans heq)).2
        rw [hitems]
        rfl
    · next _ hmore => exact absurd hcomma (hmore _)

/-- A field is a name, a colon and a value; after it the object is closed, or there is a comma with more fields after
it. -/
theorem fields?_cons {body afterName beforeValue : List Char} {name : Option String} {value : Json}
    {fields : List (Option String × Json)} (h : skipGap cs = '"' :: body) (hname : Finds (string? body) name afterName)
    (hcolon : skipGap afterName = ':' :: beforeValue) (hvalue : Finds (value? beforeValue) value start)
    (hfields : (fields = [] ∧ skipGap start = '\x7d' :: rest)
      ∨ ∃ next, skipGap start = ',' :: next ∧ Finds (fields? next) fields rest) :
    Finds (fields? cs) ((name, value) :: fields) rest := by
  obtain ⟨hltName, hname⟩ := hname
  obtain ⟨hltValue, hvalue⟩ := hvalue
  have hlast : rest.length < start.length := by
    rcases hfields with ⟨-, hclose⟩ | ⟨next, hcomma, hnext, -⟩
    · exact length_lt_of_skipGap hclose
    · exact Nat.lt_trans hnext (length_lt_of_skipGap hcomma)
  have hltField := Nat.lt_trans (length_lt_of_skipGap hcolon) (Nat.lt_trans hltName (length_lt_of_skipGap h))
  refine ⟨Nat.lt_trans hlast (Nat.lt_trans hltValue hltField), ?_⟩
  rw [fields?]
  split
  · next heq =>
      obtain rfl := (List.cons.inj (h.symm.trans heq)).2
      rw [hname]
      dsimp only
      split
      · next heq =>
          obtain rfl := (List.cons.inj (hcolon.symm.trans heq)).2
          rw [hvalue]
          dsimp only
          rcases hfields with ⟨rfl, hclose⟩ | ⟨next, hcomma, _, hfields⟩
          · split
            · next heq =>
                obtain rfl := (List.cons.inj (hclose.symm.trans heq)).2
                rfl
            · next heq => exact absurd (List.cons.inj (hclose.symm.trans heq)).1 (by decide)
            · next hclosed _ => exact absurd hclose (hclosed _)
          · split
            · next heq => exact absurd (List.cons.inj (hcomma.symm.trans heq)).1 (by decide)
            · next heq =>
                obtain rfl := (List.cons.inj (hcomma.symm.trans heq)).2
                rw [hfields]
                rfl
            · next _ hmore => exact absurd hcomma (hmore _)
      · next hnone => exact absurd hcolon (hnone _)
  · next hnone => exact absurd h (hnone _)

end Readers

/-! ### Values -/

/-- A value whose numbers are all within range. -/
inductive InRange : Json → Prop
  | null : InRange .null
  | bool (b : Bool) : InRange (.bool b)
  | number {n : Number} (h : n.InRange) : InRange (.number n)
  | string (s : Option String) : InRange (.string s)
  | array {items : List Json} (h : ∀ item ∈ items, InRange item) : InRange (.array items)
  | object {fields : List (Option String × Json)} (h : ∀ field ∈ fields, InRange field.2) : InRange (.object fields)

/-- A value is found at the start of every text that goes on with something that may follow it. -/
def IsFound (j : Json) : Prop :=
  ∀ rest, AfterValue rest → Finds (value? (j.compactChars ++ rest)) j rest

theorem commaSeparated_cons (text : List Char) (texts : List (List Char)) :
    commaSeparated (text :: texts) = text ++ texts.flatMap (',' :: ·) := by
  have hcomma := flatMap_comma (List.cons_ne_nil text texts)
  rw [List.flatMap_cons, List.cons_append] at hcomma
  exact (List.cons.inj hcomma).2.symm

/-- A comma or a bracket may follow a value. -/
theorem afterValue_flatMap_comma (texts : List (List Char)) {d : Char} (hd : d ∈ [',', ']', '\x7d'])
    (rest : List Char) : AfterValue (texts.flatMap (',' :: ·) ++ d :: rest) := by
  intro c hc
  cases texts with
  | nil => exact Option.some.inj hc ▸ hd
  | cons text texts => exact Option.some.inj hc ▸ by decide

/-- Items that are found one by one are found as the items of an array. -/
theorem items?_compactItems {item : Json} {items : List Json} (h : ∀ i ∈ item :: items, i.IsFound)
    (rest : List Char) :
    Finds (items? (item.compactChars ++ ((compactItems items).flatMap (',' :: ·) ++ ']' :: rest))) (item :: items)
      rest := by
  have hbracket : ']' ∈ [',', ']', '\x7d'] := by decide
  have hitem := h item List.mem_cons_self _ (afterValue_flatMap_comma (compactItems items) hbracket rest)
  induction items generalizing item with
  | nil => exact items?_cons hitem (Or.inl ⟨rfl, rfl⟩)
  | cons next items ih =>
      have hitems := ih (fun i hi => h i (List.mem_cons_of_mem _ hi))
        (h next (List.mem_cons_of_mem _ List.mem_cons_self) _ (afterValue_flatMap_comma _ hbracket rest))
      rw [compactItems, List.flatMap_cons, List.append_assoc] at hitem ⊢
      exact items?_cons hitem (Or.inr ⟨_, rfl, hitems⟩)

/-- A field is found before the brace that closes the object, or before a comma and more fields. -/
theorem fields?_field (name : Option String) {value : Json} {fields : List (Option String × Json)}
    {tail rest : List Char} (hvalue : value.IsFound) (htail : AfterValue tail)
    (hfields : (fields = [] ∧ skipGap tail = '\x7d' :: rest)
      ∨ ∃ next, skipGap tail = ',' :: next ∧ Finds (fields? next) fields rest) :
    Finds (fields? (literal name ++ ':' :: value.compactChars ++ tail)) ((name, value) :: fields) rest := by
  obtain ⟨body, hbody, hname⟩ := exists_string? name (':' :: (value.compactChars ++ tail))
  rw [List.append_assoc, List.cons_append, hbody]
  exact fields?_cons rfl hname rfl (hvalue tail htail) hfields

/-- Fields whose values are found one by one are found as the fields of an object. -/
theorem fields?_compactFields {field : Option String × Json} {fields : List (Option String × Json)}
    (h : ∀ f ∈ field :: fields, IsFound f.2) (rest : List Char) :
    Finds (fields? (literal field.1 ++ ':' :: field.2.compactChars
      ++ ((compactFields fields).flatMap (',' :: ·) ++ '\x7d' :: rest))) (field :: fields) rest := by
  have hafter : ∀ fields, AfterValue ((compactFields fields).flatMap (',' :: ·) ++ '\x7d' :: rest) :=
    fun _ => afterValue_flatMap_comma _ (by decide) rest
  induction fields generalizing field with
  | nil => exact fields?_field field.1 (h field List.mem_cons_self) (hafter []) (Or.inl ⟨rfl, rfl⟩)
  | cons next fields ih =>
      have hfields := ih fun f hf => h f (List.mem_cons_of_mem _ hf)
      have hcomma : (compactFields (next :: fields)).flatMap (',' :: ·) ++ '\x7d' :: rest
          = ',' :: (literal next.1 ++ ':' :: next.2.compactChars
            ++ ((compactFields fields).flatMap (',' :: ·) ++ '\x7d' :: rest)) := by
        rw [compactFields, List.flatMap_cons, List.append_assoc]
        rfl
      have hnext := hafter (next :: fields)
      rw [hcomma] at hnext ⊢
      exact fields?_field field.1 (h field List.mem_cons_self) hnext (Or.inr ⟨_, rfl, hfields⟩)

/-- Where a value starts there is no gap. -/
theorem skipGap_compactChars (j : Json) (rest : List Char) :
    skipGap (j.compactChars ++ rest) = j.compactChars ++ rest := by
  obtain ⟨c, cs, hcs, hkind⟩ := exists_head j
  have hvalue : kindOf c ≠ 6 := by
    rw [hkind]
    cases j <;> simp [kind]
  have hgap : (c == ' ' || c == '\n' || c == '\t' || c == '\r') = false := by
    rw [Bool.eq_false_iff]
    intro hblank
    simp only [Bool.or_eq_true, beq_iff_eq] at hblank
    rcases hblank with ((rfl | rfl) | rfl) | rfl
    all_goals exact hvalue (by decide)
  rw [hcs, List.cons_append]
  exact List.dropWhile_cons_of_neg (Bool.eq_false_iff.1 hgap)

/-- A value takes at least one character. -/
theorem length_lt_append (j : Json) (rest : List Char) : rest.length < (j.compactChars ++ rest).length := by
  obtain ⟨c, cs, hcs, -⟩ := exists_head j
  rw [hcs, List.length_append, List.length_cons]
  omega

/-- A number is found where a value is expected. -/
theorem isFound_number {n : Number} (h : n.InRange) : (Json.number n).IsFound := by
  intro rest hrest
  have hread := readNumber?_text h hrest
  obtain ⟨c, cs, hcs⟩ := List.exists_cons_of_ne_nil (text_ne_nil n)
  have hnumber : isNumberChar c = true := isNumberChar_of_mem_text (hcs ▸ List.mem_cons_self)
  have hne : ∀ d, isNumberChar d = false → c ≠ d := by
    rintro d hd rfl
    rw [hnumber] at hd
    exact absurd hd (by decide)
  have hgap := skipGap_compactChars (.number n) rest
  have hscalar : scalar? (n.text ++ rest) = some (.number n, rest) := by
    rw [hcs, List.cons_append] at hread ⊢
    rw [scalar?, hread]
    · rfl
    all_goals
      rintro ds heq
      exact absurd (List.cons.inj heq).1 (hne _ (by decide))
  have hlt := length_lt_append (.number n) rest
  rw [compactChars] at hgap hlt ⊢
  rw [hcs] at hgap hscalar hlt ⊢
  exact value?_scalar hgap ⟨hne _ (by decide), hne _ (by decide), hne _ (by decide)⟩ hscalar hlt

/-- **Values.** A value within range is found at the start of its text. -/
theorem value?_compactChars {j : Json} (h : j.InRange) : j.IsFound := by
  induction h with
  | null =>
      intro rest _
      exact value?_scalar rfl (by decide) rfl (length_lt_append _ rest)
  | bool b =>
      intro rest _
      cases b with
      | true => exact value?_scalar rfl (by decide) rfl (length_lt_append _ rest)
      | false => exact value?_scalar rfl (by decide) rfl (length_lt_append _ rest)
  | number h => exact isFound_number h
  | string s =>
      intro rest _
      obtain ⟨body, hbody, hstring⟩ := exists_string? s rest
      rw [compactChars, hbody]
      exact value?_string rfl hstring
  | @array items h ih =>
      intro rest _
      rw [compactChars, between_append]
      refine value?_array rfl ?_
      cases items with
      | nil => exact Or.inl ⟨rfl, rfl⟩
      | cons item items =>
          rw [compactItems, commaSeparated_cons, List.append_assoc]
          refine Or.inr ⟨?_, items?_compactItems ih rest⟩
          intro after
          have hitem : item.compactChars ∈ compactItems (item :: items) := List.mem_cons_self
          obtain ⟨c, cs, hcs, hc⟩ := head_of_mem_compactItems hitem
          rw [skipGap_compactChars, hcs]
          exact fun heq => hc (List.cons.inj heq).1
  | @object fields h ih =>
      intro rest _
      rw [compactChars, between_append]
      refine value?_object rfl ?_
      cases fields with
      | nil => exact Or.inl ⟨rfl, rfl⟩
      | cons field fields =>
          rw [compactFields, commaSeparated_cons, List.append_assoc]
          refine Or.inr ⟨?_, fields?_compactFields ih rest⟩
          intro after
          obtain ⟨body, hbody, -⟩ := exists_string? field.1 (':' :: field.2.compactChars
            ++ ((compactFields fields).flatMap (',' :: ·) ++ '\x7d' :: rest))
          rw [List.append_assoc, hbody]
          exact fun heq => absurd (List.cons.inj heq).1 (by decide)

/-- **Texts.** What is written for a value within range is read as the value. -/
theorem read?_compact {j : Json} (h : j.InRange) : read? j.compact = some j := by
  have hend : AfterValue [] := fun c hc => absurd hc (by simp)
  have htext : j.compactChars ++ [] = j.compact.toList := by rw [List.append_nil, compact, String.toList_ofList]
  have hvalue := value?_compactChars h [] hend
  rw [htext] at hvalue
  obtain ⟨hlt, hvalue⟩ := hvalue
  rw [read?, hvalue]
  rfl

end FeatureQuery.Json
