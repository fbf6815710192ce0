import FeatureQuery.Json.Text
import FeatureQuery.Proofs.Text.Digits
import Mathlib.Data.List.Basic
import Mathlib.Logic.Function.Basic

/-!
# JSON texts are unambiguous

The text of a value on one line determines the value. A number is as long as the characters of numbers go on,
a string ends with the first quote that is not escaped, and arrays and objects end with their brackets; so the
value can also be told apart from what follows it, if that is no character of a number.

## Main results

* `literal_append_inj`: a string literal determines the string and what follows it.
* `compactChars_append_inj`: so does the text of a value.
* `compact_injective`: two values with the same text are the same.
-/

namespace FeatureQuery.Json

open FeatureQuery.Text (append_inj_of_class isDigit_of_mem_toDigits)

/-! ### Numbers -/

/-- A character of a number. -/
def isNumberChar (c : Char) : Bool :=
  c.isDigit || c == '-' || c == 'e'

theorem toList_toString_nat (n : Nat) : (toString n).toList = Nat.toDigits 10 n :=
  Nat.toList_repr

/-- A natural number is written in digits. -/
theorem isDigit_of_mem_toString {n : Nat} {c : Char} (h : c ∈ (toString n).toList) : c.isDigit = true := by
  rw [toList_toString_nat] at h
  exact isDigit_of_mem_toDigits h

/-- Natural numbers with the same text are the same. -/
theorem toString_nat_injective {m n : Nat} (h : (toString m).toList = (toString n).toList) : m = n := by
  rw [toList_toString_nat, toList_toString_nat] at h
  rw [← Nat.ofDigitChars_ten_toDigits (n := m), h, Nat.ofDigitChars_ten_toDigits]

/-- An integer is written as a natural number, or as one after a minus. -/
theorem toString_int_cases (n : Int) :
    (∃ m : Nat, n = m ∧ (toString n).toList = (toString m).toList)
      ∨ ∃ m : Nat, n = Int.negSucc m ∧ (toString n).toList = '-' :: (toString (m + 1)).toList := by
  cases n with
  | ofNat m => exact Or.inl ⟨m, rfl, rfl⟩
  | negSucc m =>
      refine Or.inr ⟨m, rfl, ?_⟩
      have htext : toString (Int.negSucc m) = "-" ++ toString (m + 1) := rfl
      rw [htext, String.toList_append]
      rfl

/-- A minus stands in no natural number. -/
theorem minus_not_mem_toString (n : Nat) : '-' ∉ (toString n).toList := fun h =>
  absurd (isDigit_of_mem_toString h) (by decide)

/-- Integers with the same text are the same. -/
theorem toString_int_injective {m n : Int} (h : (toString m).toList = (toString n).toList) : m = n := by
  rcases toString_int_cases m with ⟨a, rfl, ha⟩ | ⟨a, rfl, ha⟩
  · rcases toString_int_cases n with ⟨b, rfl, hb⟩ | ⟨b, rfl, hb⟩
    · rw [ha, hb] at h
      rw [toString_nat_injective h]
    · rw [ha, hb] at h
      exact absurd (h ▸ List.mem_cons_self) (minus_not_mem_toString a)
  · rcases toString_int_cases n with ⟨b, rfl, hb⟩ | ⟨b, rfl, hb⟩
    · rw [ha, hb] at h
      exact absurd (h.symm ▸ List.mem_cons_self) (minus_not_mem_toString b)
    · rw [ha, hb, List.cons.injEq] at h
      rw [Nat.succ.inj (toString_nat_injective h.2)]

/-- An integer is written in digits, perhaps after a minus. -/
theorem isDigit_or_minus_of_mem_toString {n : Int} {c : Char} (h : c ∈ (toString n).toList) :
    c.isDigit = true ∨ c = '-' := by
  rcases toString_int_cases n with ⟨m, -, hm⟩ | ⟨m, -, hm⟩
  · rw [hm] at h
    exact Or.inl (isDigit_of_mem_toString h)
  · rw [hm] at h
    rcases List.mem_cons.1 h with rfl | h
    · exact Or.inr rfl
    · exact Or.inl (isDigit_of_mem_toString h)

/-- No `e` stands in an integer. -/
theorem mark_not_mem_toString (n : Int) : 'e' ∉ (toString n).toList := by
  intro h
  rcases isDigit_or_minus_of_mem_toString h with hdigit | hminus
  · exact absurd hdigit (by decide)
  · exact absurd hminus (by decide)

/-- The text of a number consists of characters of numbers. -/
theorem isNumberChar_of_mem_text {n : Number} {c : Char} (h : c ∈ n.text) : isNumberChar c = true := by
  have hdigit : c.isDigit = true → isNumberChar c = true := by
    intro hdigit
    rw [isNumberChar, hdigit]
    rfl
  have hint : ∀ {m : Int}, c ∈ (toString m).toList → isNumberChar c = true := by
    intro m hmem
    rcases isDigit_or_minus_of_mem_toString hmem with hmem | rfl
    · exact hdigit hmem
    · decide
  cases n with
  | integer m => exact hint h
  | real negative significand exponent =>
      rw [Number.text, List.append_assoc, List.mem_append, List.mem_append, List.mem_cons] at h
      rcases h with hsign | hmem | rfl | hmem
      · cases negative with
        | true =>
            rw [List.mem_singleton.1 hsign]
            decide
        | false => exact absurd hsign List.not_mem_nil
      · exact hdigit (isDigit_of_mem_toString hmem)
      · decide
      · exact hint hmem

/-- A sign and a natural number are read back from their texts. -/
theorem signed_injective {b b' : Bool} {m n : Nat}
    (h : (if b then ['-'] else []) ++ (toString m).toList = (if b' then ['-'] else []) ++ (toString n).toList) :
    b = b' ∧ m = n := by
  cases b with
  | true =>
      cases b' with
      | true => exact ⟨rfl, toString_nat_injective (List.cons.inj h).2⟩
      | false =>
          have hminus : '-' :: (toString m).toList = (toString n).toList := h
          exact absurd (hminus ▸ List.mem_cons_self) (minus_not_mem_toString n)
  | false =>
      cases b' with
      | true =>
          have hminus : (toString m).toList = '-' :: (toString n).toList := h
          exact absurd (hminus ▸ List.mem_cons_self) (minus_not_mem_toString m)
      | false => exact ⟨rfl, toString_nat_injective h⟩

/-- No `e` stands before the exponent. -/
theorem mark_not_mem_signed {b : Bool} {n : Nat} {c : Char}
    (h : c ∈ (if b then ['-'] else []) ++ (toString n).toList) : (c != 'e') = true := by
  rw [bne_iff_ne]
  rintro rfl
  rcases List.mem_append.1 h with hsign | hmem
  · cases b with
    | true => exact absurd hsign (by decide)
    | false => exact absurd hsign List.not_mem_nil
  · exact absurd (isDigit_of_mem_toString hmem) (by decide)

/-- A number is read back from its text. -/
theorem Number.text_injective {n n' : Number} (h : n.text = n'.text) : n = n' := by
  have hmark : ∀ {b : Bool} {s : Nat} {e : Int}, 'e' ∈ (Number.real b s e).text := by
    intro b s e
    exact List.mem_append_right _ List.mem_cons_self
  cases n with
  | integer m =>
      cases n' with
      | integer m' => rw [toString_int_injective h]
      | real b' s' e' =>
          have htext : (toString m).toList = (real b' s' e').text := h
          exact absurd (htext ▸ hmark) (mark_not_mem_toString m)
  | real b s e =>
      cases n' with
      | integer m' =>
          have htext : (real b s e).text = (toString m').toList := h
          exact absurd (htext ▸ hmark) (mark_not_mem_toString m')
      | real b' s' e' =>
          have hend : ∀ {ds : List Char} c, ('e' :: ds).head? = some c → (c != 'e') = false := by
            intro ds c hc
            rw [← Option.some.inj hc]
            rfl
          obtain ⟨hbefore, hafter⟩ := append_inj_of_class (p := (· != 'e')) (fun _ => mark_not_mem_signed)
            (fun _ => mark_not_mem_signed) hend hend h
          obtain ⟨rfl, rfl⟩ := signed_injective hbefore
          rw [toString_int_injective (List.cons.inj hafter).2]

/-- What follows a number does not go on with it. -/
def Ends (cs : List Char) : Prop :=
  ∀ c, cs.head? = some c → isNumberChar c = false

/-- The text of a number determines the number and what follows it. -/
theorem Number.text_append_inj {n n' : Number} {x y : List Char} (hx : Ends x) (hy : Ends y)
    (h : n.text ++ x = n'.text ++ y) : n = n' ∧ x = y := by
  obtain ⟨htext, hrest⟩ := append_inj_of_class (fun _ => isNumberChar_of_mem_text)
    (fun _ => isNumberChar_of_mem_text) hx hy h
  exact ⟨Number.text_injective htext, hrest⟩

/-! ### Strings -/

/-- The characters that are escaped. -/
def specials : List Char :=
  '"' :: '\\' :: (List.range 32).map Char.ofNat

/-- A character is escaped, or stands for itself and is neither a quote nor a backslash. -/
theorem escapedChar_cases (c : Char) :
    c ∈ specials ∨ (escapedChar c = [c] ∧ c ≠ '"' ∧ c ≠ '\\') := by
  by_cases hquote : c = '"'
  · exact Or.inl (hquote ▸ List.mem_cons_self)
  by_cases hslash : c = '\\'
  · exact Or.inl (hslash ▸ List.mem_cons_of_mem _ List.mem_cons_self)
  by_cases hcode : 0x20 ≤ c.toNat
  · exact Or.inr ⟨escapedChar_of_le hcode hquote hslash, hquote, hslash⟩
  · refine Or.inl (List.mem_cons_of_mem _ (List.mem_cons_of_mem _ (List.mem_map.2 ⟨c.toNat, ?_, ?_⟩)))
    · exact List.mem_range.2 (Nat.not_le.1 hcode)
    · exact Char.ofNat_toNat c

/-- An escape starts with a backslash, and no escape is the start of another one or of half a surrogate
pair. -/
theorem escapedChar_special {c : Char} (h : c ∈ specials) : (escapedChar c).head? = some '\\'
    ∧ (escapedChar c).isPrefixOf ['\\', 'u', 'd'] = false ∧ ['\\', 'u', 'd'].isPrefixOf (escapedChar c) = false
    ∧ ∀ d ∈ specials, (escapedChar c).isPrefixOf (escapedChar d) = true → c = d := by
  have hall : (specials.all fun c => (escapedChar c).head? == some '\\'
      && !(escapedChar c).isPrefixOf ['\\', 'u', 'd'] && !(['\\', 'u', 'd'].isPrefixOf (escapedChar c))
      && specials.all fun d => !(escapedChar c).isPrefixOf (escapedChar d) || c == d) = true := by
    decide +kernel
  have hc := List.all_eq_true.1 hall c h
  simp only [Bool.and_eq_true, Bool.not_eq_true', beq_iff_eq] at hc
  obtain ⟨⟨⟨hhead, hleft⟩, hright⟩, hothers⟩ := hc
  refine ⟨hhead, hleft, hright, ?_⟩
  intro d hd hstarts
  have hother := List.all_eq_true.1 hothers d hd
  rw [hstarts] at hother
  exact eq_of_beq hother

/-- An escaped character determines the character and what follows it. -/
theorem escapedChar_append_inj {c d : Char} {x y : List Char}
    (h : escapedChar c ++ x = escapedChar d ++ y) : c = d ∧ x = y := by
  have hhead := congrArg List.head? h
  have hspecial : ∀ {c x}, c ∈ specials → (escapedChar c ++ x).head? = some '\\' := by
    intro c x hc
    rw [List.head?_append, (escapedChar_special hc).1]
    rfl
  rcases escapedChar_cases c with hc | ⟨hc, -, hslash⟩
  · rcases escapedChar_cases d with hd | ⟨hd, -, hslash⟩
    · have heq : c = d := by
        rcases List.prefix_or_prefix_of_prefix (List.prefix_append _ x) (h ▸ List.prefix_append _ y) with
          hstarts | hstarts
        · exact (escapedChar_special hc).2.2.2 d hd (List.isPrefixOf_iff_prefix.2 hstarts)
        · exact ((escapedChar_special hd).2.2.2 c hc (List.isPrefixOf_iff_prefix.2 hstarts)).symm
      rw [heq, List.append_cancel_left_eq] at h
      exact ⟨heq, h⟩
    · rw [hspecial hc, hd] at hhead
      exact absurd (Option.some.inj hhead).symm hslash
  · rcases escapedChar_cases d with hd | ⟨hd, -, -⟩
    · rw [hspecial hd, hc] at hhead
      exact absurd (Option.some.inj hhead) hslash
    · rw [hc, hd] at h
      exact List.cons.inj h

/-- No escaped character starts with a quote. -/
theorem head?_escapedChar (c : Char) (x : List Char) : (escapedChar c ++ x).head? ≠ some '"' := by
  rcases escapedChar_cases c with hc | ⟨hc, hquote, -⟩
  · rw [List.head?_append, (escapedChar_special hc).1]
    exact fun h => absurd (Option.some.inj h) (by decide)
  · rw [hc]
    exact fun h => hquote (Option.some.inj h)

/-- The escaped characters up to a quote determine the characters and what follows the quote. -/
theorem escaped_append_inj {cs ds x y : List Char}
    (h : cs.flatMap escapedChar ++ '"' :: x = ds.flatMap escapedChar ++ '"' :: y) : cs = ds ∧ x = y := by
  induction cs generalizing ds with
  | nil =>
      cases ds with
      | nil => exact ⟨rfl, (List.cons.inj h).2⟩
      | cons d ds =>
          rw [List.flatMap_cons, List.append_assoc] at h
          exact absurd (congrArg List.head? h).symm (head?_escapedChar d _)
  | cons c cs ih =>
      cases ds with
      | nil =>
          rw [List.flatMap_cons, List.append_assoc] at h
          exact absurd (congrArg List.head? h) (head?_escapedChar c _)
      | cons d ds =>
          rw [List.flatMap_cons, List.flatMap_cons, List.append_assoc, List.append_assoc] at h
          obtain ⟨rfl, hrest⟩ := escapedChar_append_inj h
          obtain ⟨rfl, hxy⟩ := ih hrest
          exact ⟨rfl, hxy⟩

/-- Half a surrogate pair is the text of no string. -/
theorem escaped_ne_surrogate (cs x y : List Char) :
    cs.flatMap escapedChar ++ '"' :: x ≠ ['\\', 'u', 'd'] ++ y := by
  intro h
  cases cs with
  | nil => exact absurd (List.cons.inj h).1 (by decide)
  | cons c cs =>
      rw [List.flatMap_cons, List.append_assoc] at h
      rcases escapedChar_cases c with hc | ⟨hc, -, hslash⟩
      · obtain ⟨-, hleft, hright, -⟩ := escapedChar_special hc
        rcases List.prefix_or_prefix_of_prefix (List.prefix_append _ _) (h ▸ List.prefix_append _ y) with
          hstarts | hstarts
        · exact absurd (List.isPrefixOf_iff_prefix.2 hstarts) (Bool.eq_false_iff.1 hleft)
        · exact absurd (List.isPrefixOf_iff_prefix.2 hstarts) (Bool.eq_false_iff.1 hright)
      · rw [hc] at h
        exact hslash (List.cons.inj h).1

/-- **Strings.** A string literal determines the string and what follows it. -/
theorem literal_append_inj {s t : Option String} {x y : List Char} (h : literal s ++ x = literal t ++ y) :
    s = t ∧ x = y := by
  have htext : ∀ (s : String) (z : List Char),
      literal (some s) ++ z = '"' :: (s.toList.flatMap escapedChar ++ '"' :: z) := by
    intro s z
    rw [literal, stringLiteral, List.cons_append, List.cons_append, List.append_assoc]
    rfl
  have hnone : ∀ z : List Char,
      literal none ++ z = '"' :: (['\\', 'u', 'd'] ++ (['8', '0', '0', '"'] ++ z)) := fun _ => rfl
  cases s with
  | none =>
      cases t with
      | none => exact ⟨rfl, List.append_cancel_left h⟩
      | some t =>
          rw [hnone, htext] at h
          exact absurd (List.cons.inj h).2.symm (escaped_ne_surrogate _ _ _)
  | some s =>
      cases t with
      | none =>
          rw [hnone, htext] at h
          exact absurd (List.cons.inj h).2 (escaped_ne_surrogate _ _ _)
      | some t =>
          rw [htext, htext] at h
          obtain ⟨hchars, hxy⟩ := escaped_append_inj (List.cons.inj h).2
          exact ⟨congrArg some (String.toList_inj.1 hchars), hxy⟩

/-! ### Values -/

/-- The kind of the value that a character starts; the last one is that of no value. -/
def kindOf (c : Char) : Nat :=
  if isNumberChar c then 0
  else if c = 'n' then 1
  else if c = 't' ∨ c = 'f' then 2
  else if c = '"' then 3
  else if c = '[' then 4
  else if c = '\x7b' then 5
  else 6

/-- The kind of a value. -/
def kind : Json → Nat
  | .number _ => 0
  | .null => 1
  | .bool _ => 2
  | .string _ => 3
  | .array _ => 4
  | .object _ => 5

/-- A number has a text. -/
theorem text_ne_nil (n : Number) : n.text ≠ [] := by
  cases n with
  | integer m =>
      rcases toString_int_cases m with ⟨k, -, hk⟩ | ⟨k, -, hk⟩
      · rw [Number.text, hk, toList_toString_nat]
        exact Nat.toDigits_ne_nil
      · rw [Number.text, hk]
        exact List.cons_ne_nil _ _
  | real negative significand exponent =>
      exact List.append_ne_nil_of_right_ne_nil _ (List.cons_ne_nil _ _)

/-- The first character of a text tells the kind of its value. -/
theorem exists_head (j : Json) : ∃ c cs, j.compactChars = c :: cs ∧ kindOf c = j.kind := by
  cases j with
  | null => exact ⟨'n', _, rfl, rfl⟩
  | bool b =>
      cases b with
      | true => exact ⟨'t', _, rfl, rfl⟩
      | false => exact ⟨'f', _, rfl, rfl⟩
  | number n =>
      obtain ⟨c, cs, htext⟩ := List.exists_cons_of_ne_nil (text_ne_nil n)
      refine ⟨c, cs, htext, ?_⟩
      rw [kindOf, if_pos (isNumberChar_of_mem_text (htext ▸ List.mem_cons_self))]
      rfl
  | string s =>
      cases s with
      | none => exact ⟨'"', _, rfl, rfl⟩
      | some s => exact ⟨'"', _, rfl, rfl⟩
  | array items => exact ⟨'[', _, rfl, rfl⟩
  | object fields => exact ⟨'\x7b', _, rfl, rfl⟩

/-- Values whose texts start alike are of one kind. -/
theorem kind_eq_of_append_eq {j k : Json} {x y : List Char} (h : j.compactChars ++ x = k.compactChars ++ y) :
    j.kind = k.kind := by
  obtain ⟨c, cs, hj, hc⟩ := exists_head j
  obtain ⟨d, ds, hk, hd⟩ := exists_head k
  rw [hj, hk] at h
  rw [← hc, ← hd, (List.cons.inj h).1]

/-- Texts with a comma before each of them are the texts between commas after one more comma. -/
theorem flatMap_comma {texts : List (List Char)} (h : texts ≠ []) :
    texts.flatMap (',' :: ·) = ',' :: commaSeparated texts := by
  induction texts with
  | nil => exact absurd rfl h
  | cons text texts ih =>
      cases texts with
      | nil => simp [commaSeparated]
      | cons next texts =>
          have hcomma : commaSeparated (text :: next :: texts)
              = text ++ ',' :: commaSeparated (next :: texts) := rfl
          rw [List.flatMap_cons, ih (List.cons_ne_nil next texts), hcomma]
          rfl

/-- Two lists of texts between commas and before a bracket can be compared with a comma before each text, if
no text starts with the bracket. -/
theorem flatMap_comma_eq {texts others : List (List Char)} {d : Char} {x y : List Char}
    (htexts : ∀ text ∈ texts, ∃ c cs, text = c :: cs ∧ c ≠ d)
    (hothers : ∀ text ∈ others, ∃ c cs, text = c :: cs ∧ c ≠ d)
    (h : commaSeparated texts ++ d :: x = commaSeparated others ++ d :: y) :
    texts.flatMap (',' :: ·) ++ d :: x = others.flatMap (',' :: ·) ++ d :: y := by
  have hne : ∀ {texts : List (List Char)} {z w : List Char}, texts ≠ [] →
      (∀ text ∈ texts, ∃ c cs, text = c :: cs ∧ c ≠ d) → commaSeparated texts ++ z ≠ d :: w := by
    intro texts z w hne hhead heq
    obtain ⟨text, rest, rfl⟩ := List.exists_cons_of_ne_nil hne
    obtain ⟨c, cs, rfl, hc⟩ := hhead text List.mem_cons_self
    have hcomma := flatMap_comma hne
    rw [List.flatMap_cons, List.cons_append, List.cons.injEq] at hcomma
    rw [← hcomma.2] at heq
    exact hc (List.cons.inj heq).1
  by_cases htexts' : texts = []
  · by_cases hothers' : others = []
    · rw [htexts', hothers'] at h ⊢
      exact h
    · rw [htexts'] at h
      exact absurd h.symm (hne hothers' hothers)
  · by_cases hothers' : others = []
    · rw [hothers'] at h
      exact absurd h (hne htexts' htexts)
    · rw [flatMap_comma htexts', flatMap_comma hothers', List.cons_append, List.cons_append, h]

/-- Items are written one by one. -/
theorem compactItems_eq (items : List Json) : compactItems items = items.map compactChars := by
  induction items with
  | nil => rfl
  | cons item items ih => rw [compactItems, ih, List.map_cons]

/-- Fields are written one by one, each as its name, a colon and its value. -/
theorem compactFields_eq (fields : List (Option String × Json)) :
    compactFields fields = fields.map fun field => literal field.1 ++ ':' :: field.2.compactChars := by
  induction fields with
  | nil => rfl
  | cons field fields ih =>
      obtain ⟨name, value⟩ := field
      rw [compactFields, ih, List.map_cons]

/-- What stands after an item ends it: a comma before the next one, or the bracket. -/
theorem ends_flatMap_comma (texts : List (List Char)) {d : Char} (hd : isNumberChar d = false)
    (x : List Char) : Ends (texts.flatMap (',' :: ·) ++ d :: x) := by
  intro c hc
  cases texts with
  | nil => exact Option.some.inj hc ▸ hd
  | cons text texts => exact Option.some.inj hc ▸ by decide

/-- No item starts with a bracket that closes. -/
theorem head_of_mem_compactItems {items : List Json} {text : List Char} (h : text ∈ compactItems items) :
    ∃ c cs, text = c :: cs ∧ c ≠ ']' := by
  rw [compactItems_eq, List.mem_map] at h
  obtain ⟨item, -, rfl⟩ := h
  obtain ⟨c, cs, hcs, hc⟩ := exists_head item
  refine ⟨c, cs, hcs, ?_⟩
  rintro rfl
  cases item with
  | _ => exact absurd hc (by simp [kind, kindOf, isNumberChar])

/-- No field starts with a bracket that closes. -/
theorem head_of_mem_compactFields {fields : List (Option String × Json)} {text : List Char}
    (h : text ∈ compactFields fields) : ∃ c cs, text = c :: cs ∧ c ≠ '\x7d' := by
  rw [compactFields_eq, List.mem_map] at h
  obtain ⟨⟨name, value⟩, -, rfl⟩ := h
  cases name with
  | none => exact ⟨'"', _, rfl, by decide⟩
  | some name => exact ⟨'"', _, rfl, by decide⟩

/-- A text between two brackets, up to what follows. -/
theorem between_append (opening closing : Char) (text x : List Char) :
    (opening :: text ++ [closing]) ++ x = opening :: (text ++ closing :: x) := by
  rw [List.append_assoc]
  rfl

mutual

/-- **Values.** The text of a value determines the value and what follows it. -/
theorem compactChars_append_inj (j k : Json) {x y : List Char} (hx : Ends x) (hy : Ends y)
    (h : j.compactChars ++ x = k.compactChars ++ y) : j = k ∧ x = y := by
  have hkind := kind_eq_of_append_eq h
  cases j with
  | null =>
      cases k with
      | null => exact ⟨rfl, List.append_cancel_left h⟩
      | _ => exact absurd hkind (by simp [kind])
  | bool b =>
      cases k with
      | bool b' =>
          cases b with
          | true =>
              cases b' with
              | true => exact ⟨rfl, List.append_cancel_left h⟩
              | false => exact absurd (List.cons.inj h).1 (by decide)
          | false =>
              cases b' with
              | true => exact absurd (List.cons.inj h).1 (by decide)
              | false => exact ⟨rfl, List.append_cancel_left h⟩
      | _ => exact absurd hkind (by simp [kind])
  | number n =>
      cases k with
      | number n' =>
          obtain ⟨rfl, hxy⟩ := Number.text_append_inj hx hy h
          exact ⟨rfl, hxy⟩
      | _ => exact absurd hkind (by simp [kind])
  | string s =>
      cases k with
      | string s' =>
          obtain ⟨rfl, hxy⟩ := literal_append_inj h
          exact ⟨rfl, hxy⟩
      | _ => exact absurd hkind (by simp [kind])
  | array items =>
      cases k with
      | array items' =>
          rw [compactChars, compactChars, between_append, between_append] at h
          obtain ⟨rfl, hxy⟩ := items_append_inj items items' (flatMap_comma_eq
            (fun _ => head_of_mem_compactItems) (fun _ => head_of_mem_compactItems) (List.cons.inj h).2)
          exact ⟨rfl, hxy⟩
      | _ => exact absurd hkind (by simp [kind])
  | object fields =>
      cases k with
      | object fields' =>
          rw [compactChars, compactChars, between_append, between_append] at h
          obtain ⟨rfl, hxy⟩ := fields_append_inj fields fields' (flatMap_comma_eq
            (fun _ => head_of_mem_compactFields) (fun _ => head_of_mem_compactFields) (List.cons.inj h).2)
          exact ⟨rfl, hxy⟩
      | _ => exact absurd hkind (by simp [kind])

/-- Items with a comma before each of them, up to a bracket, determine the items. -/
theorem items_append_inj (items others : List Json) {x y : List Char}
    (h : (compactItems items).flatMap (',' :: ·) ++ ']' :: x
      = (compactItems others).flatMap (',' :: ·) ++ ']' :: y) : items = others ∧ x = y := by
  cases items with
  | nil =>
      cases others with
      | nil => exact ⟨rfl, (List.cons.inj h).2⟩
      | cons other others => exact absurd (List.cons.inj h).1 (by decide)
  | cons item items =>
      cases others with
      | nil => exact absurd (List.cons.inj h).1 (by decide)
      | cons other others =>
          rw [compactItems, compactItems, List.flatMap_cons, List.flatMap_cons, List.append_assoc,
            List.append_assoc] at h
          obtain ⟨rfl, hrest⟩ := compactChars_append_inj item other
            (ends_flatMap_comma _ (by decide) x) (ends_flatMap_comma _ (by decide) y) (List.cons.inj h).2
          obtain ⟨rfl, hxy⟩ := items_append_inj items others hrest
          exact ⟨rfl, hxy⟩

/-- Fields with a comma before each of them, up to a bracket, determine the fields. -/
theorem fields_append_inj (fields others : List (Option String × Json)) {x y : List Char}
    (h : (compactFields fields).flatMap (',' :: ·) ++ '\x7d' :: x
      = (compactFields others).flatMap (',' :: ·) ++ '\x7d' :: y) : fields = others ∧ x = y := by
  cases fields with
  | nil =>
      cases others with
      | nil => exact ⟨rfl, (List.cons.inj h).2⟩
      | cons other others => exact absurd (List.cons.inj h).1 (by decide)
  | cons field fields =>
      obtain ⟨name, value⟩ := field
      cases others with
      | nil => exact absurd (List.cons.inj h).1 (by decide)
      | cons other others =>
          obtain ⟨name', value'⟩ := other
          rw [compactFields, compactFields, List.flatMap_cons, List.flatMap_cons, List.append_assoc,
            List.append_assoc] at h
          rw [List.cons_append, List.cons_append, List.cons.injEq, List.append_assoc,
            List.append_assoc] at h
          obtain ⟨rfl, hvalue⟩ := literal_append_inj h.2
          obtain ⟨rfl, hrest⟩ := compactChars_append_inj value value'
            (ends_flatMap_comma _ (by decide) x) (ends_flatMap_comma _ (by decide) y) (List.cons.inj hvalue).2
          obtain ⟨rfl, hxy⟩ := fields_append_inj fields others hrest
          exact ⟨rfl, hxy⟩

end

/-- Two values with the same text on one line are the same. -/
theorem compact_injective : Function.Injective compact := by
  intro j k h
  have hchars : j.compactChars ++ [] = k.compactChars ++ [] := by
    rw [List.append_nil, List.append_nil]
    exact String.ofList_injective h
  have hends : Ends [] := by
    intro c hc
    exact absurd hc (by simp)
  exact (compactChars_append_inj j k hends hends hchars).1

end FeatureQuery.Json
