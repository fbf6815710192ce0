import FeatureQuery.Proofs.Literal.Relative
import FeatureQuery.Proofs.Text.Trimming

/-!
# Written lists

A list is written with commas between its items. An item that holds commas, or has blanks at its ends, is written in
quotes. Around an item there may be blanks, and between two commas there may be nothing but blanks.

What decides where a list is split is whether a comma stands in quotes. A text is balanced if its commas all stand in
quotes and its quotes are closed where it ends: then the text goes as a whole onto the piece that follows it.

## Main results

* `Balanced.append`, `balanced_quoted`: texts made of balanced ones, and texts in quotes, are balanced.
* `splitCommas_joinWith`: commas between balanced texts separate them.
* `splitList_written`: the items of a written list are read back.
-/

namespace FeatureQuery.Literal

open FeatureQuery.Text (Blanks Tight joinWith trim)

/-! ### Balanced texts -/

/-- The commas of the text all stand in quotes, and its quotes are closed. -/
def Balanced (cs : List Char) : Prop :=
  ∀ rest, ∃ piece pieces, splitCommas false rest = piece :: pieces
    ∧ splitCommas false (cs ++ rest) = (cs ++ piece) :: pieces

/-- A text without commas and quotes is balanced. -/
theorem balanced_of_plain {cs : List Char} (hcomma : ',' ∉ cs) (hquote : '"' ∉ cs) : Balanced cs :=
  splitCommas_plain_append (fun _ => hcomma) hquote

/-- Two balanced texts make up a balanced one. -/
theorem Balanced.append {cs ds : List Char} (hcs : Balanced cs) (hds : Balanced ds) : Balanced (cs ++ ds) := by
  intro rest
  obtain ⟨piece, pieces, hrest, htail⟩ := hds rest
  obtain ⟨first, others, hfirst, hall⟩ := hcs (ds ++ rest)
  rw [htail, List.cons.injEq] at hfirst
  obtain ⟨rfl, rfl⟩ := hfirst
  exact ⟨piece, pieces, hrest, by rw [List.append_assoc, hall, List.append_assoc]⟩

/-- A text in quotes is balanced, whatever commas are in it. -/
theorem balanced_quoted {cs : List Char} (hquote : '"' ∉ cs) : Balanced ('"' :: (cs ++ ['"'])) := by
  intro rest
  have hmark : ∀ quoted : Bool, ¬ ('"' = ',' ∧ quoted = false) := fun _ h => absurd h.1 (by decide)
  obtain ⟨piece, pieces, hrest, hclosed⟩ := splitCommas_cons (hmark true) rest
  obtain ⟨last, others, hlast, hinside⟩ :=
    splitCommas_plain_append (fun h : true = false => absurd h (by decide)) hquote ('"' :: rest)
  obtain ⟨first, more, hfirst, hall⟩ := splitCommas_cons (hmark false) (cs ++ '"' :: rest)
  rw [hclosed, List.cons.injEq] at hlast
  obtain ⟨rfl, rfl⟩ := hlast
  rw [if_pos rfl, Bool.not_false, hinside, List.cons.injEq] at hfirst
  obtain ⟨rfl, rfl⟩ := hfirst
  refine ⟨piece, pieces, hrest, ?_⟩
  rw [List.cons_append, List.append_assoc, List.singleton_append, hall]
  simp

/-- Blanks are balanced. -/
theorem balanced_of_blanks {cs : List Char} (h : Blanks cs) : Balanced cs :=
  balanced_of_plain (fun hmem => absurd (h ',' hmem) (by decide)) fun hmem => absurd (h '"' hmem) (by decide)

/-- A balanced text is one piece. -/
theorem Balanced.splitCommas_eq {cs : List Char} (h : Balanced cs) : splitCommas false cs = [cs] := by
  obtain ⟨piece, pieces, hnil, hall⟩ := h []
  obtain ⟨rfl, rfl⟩ := List.cons.inj (hnil.symm.trans (rfl : splitCommas false [] = [[]]))
  rwa [List.append_nil] at hall

/-- A comma after a balanced text separates it from the rest. -/
theorem Balanced.splitCommas_append {cs : List Char} (h : Balanced cs) (rest : List Char) :
    splitCommas false (cs ++ ',' :: rest) = cs :: splitCommas false rest := by
  obtain ⟨piece, pieces, hrest, hall⟩ := h (',' :: rest)
  rw [splitCommas, if_pos ⟨rfl, rfl⟩, List.cons.injEq] at hrest
  obtain ⟨rfl, rfl⟩ := hrest
  rw [hall, List.append_nil]

/-- **Commas.** Commas between balanced texts separate them. -/
theorem splitCommas_joinWith {texts : List (List Char)} (hne : texts ≠ []) (h : ∀ text ∈ texts, Balanced text) :
    splitCommas false (joinWith [','] texts) = texts := by
  induction texts with
  | nil => exact absurd rfl hne
  | cons text texts ih =>
      have htext := h text List.mem_cons_self
      cases texts with
      | nil =>
          rw [joinWith, List.intersperse_singleton, List.flatten_singleton]
          exact htext.splitCommas_eq
      | cons next texts =>
          have hjoin : joinWith [','] (text :: next :: texts) = text ++ ',' :: joinWith [','] (next :: texts) := rfl
          rw [hjoin, htext.splitCommas_append, ih (List.cons_ne_nil _ _) fun other hother =>
            h other (List.mem_cons_of_mem _ hother)]

/-! ### Written items -/

/-- An item of a list as it is written: in quotes, or as it is. -/
inductive WrittenItem where
  | quoted (text : List Char)
  | bare (text : List Char)

namespace WrittenItem

/-- The text of the item. -/
def text : WrittenItem → List Char
  | quoted text => text
  | bare text => text

/-- How the item is written. -/
def chars : WrittenItem → List Char
  | quoted text => '"' :: (text ++ ['"'])
  | bare text => text

/-- The texts that can be written so: none is empty or holds a quote, and outside quotes a text has no comma in it
and no blank at its ends. -/
inductive Proper : WrittenItem → Prop
  | quoted {text : List Char} (ne_nil : text ≠ []) (quote : '"' ∉ text) : Proper (.quoted text)
  | bare {text : List Char} (ne_nil : text ≠ []) (quote : '"' ∉ text) (comma : ',' ∉ text) (tight : Tight text) :
      Proper (.bare text)

variable {item : WrittenItem}

theorem Proper.ne_nil (h : item.Proper) : item.text ≠ [] := by
  cases h with
  | quoted ne_nil _ => exact ne_nil
  | bare ne_nil _ _ _ => exact ne_nil

theorem Proper.balanced (h : item.Proper) : Balanced item.chars := by
  cases h with
  | quoted _ quote => exact balanced_quoted quote
  | bare _ quote comma _ => exact balanced_of_plain comma quote

/-- No blank stands at the ends of a written item. -/
theorem Proper.tight (h : item.Proper) : Tight item.chars := by
  cases h with
  | quoted _ _ =>
      constructor
      · intro c hc
        rw [← Option.some.inj hc]
        decide
      · intro c hc
        rw [chars, ← List.cons_append, List.getLast?_concat] at hc
        rw [← Option.some.inj hc]
        decide
  | bare _ _ _ tight => exact tight

/-- The text of an item is what is left when the quotes around it are taken off. -/
theorem Proper.unquote_chars (h : item.Proper) : unquote item.chars = item.text := by
  cases h with
  | quoted _ _ => exact unquote_quoted _
  | bare _ quote _ _ => exact unquote_of_head fun hhead => quote (List.mem_of_head? hhead)

end WrittenItem

/-! ### Written lists -/

/-- What stands between two commas of a list. -/
inductive Slot where
  /-- Nothing but blanks. -/
  | blank (gap : List Char)
  /-- An item with blanks around it. -/
  | item (before : List Char) (written : WrittenItem) (after : List Char)

namespace Slot

/-- The item that stands in the slot, if there is one. -/
def text? : Slot → Option (List Char)
  | blank _ => none
  | item _ written _ => some written.text

/-- How the slot is written. -/
def chars : Slot → List Char
  | blank gap => gap
  | item before written after => before ++ (written.chars ++ after)

/-- Gaps are blank, and items can be written as they are. -/
inductive Proper : Slot → Prop
  | blank {gap : List Char} (gap_blank : Blanks gap) : Proper (.blank gap)
  | item {before after : List Char} {written : WrittenItem} (before_blank : Blanks before) (proper : written.Proper)
      (after_blank : Blanks after) : Proper (.item before written after)

variable {slot : Slot}

theorem Proper.balanced (h : slot.Proper) : Balanced slot.chars := by
  cases h with
  | blank gap_blank => exact balanced_of_blanks gap_blank
  | item before_blank proper after_blank =>
      exact (balanced_of_blanks before_blank).append (proper.balanced.append (balanced_of_blanks after_blank))

/-- Taking off blanks and quotes leaves the item, or nothing. -/
theorem Proper.unquote_trim (h : slot.Proper) : unquote (trim slot.chars) = slot.text?.getD [] := by
  cases h with
  | blank gap_blank =>
      rw [chars, Text.trim_of_blanks gap_blank]
      rfl
  | item before_blank proper after_blank =>
      rw [chars, Text.trim_padded before_blank proper.tight after_blank]
      exact proper.unquote_chars

theorem Proper.ne_nil (h : slot.Proper) {text : List Char} (htext : slot.text? = some text) : text ≠ [] := by
  cases h with
  | blank _ => exact absurd htext (by simp [text?])
  | item _ proper _ => exact Option.some.inj htext ▸ proper.ne_nil

end Slot

/-- Slots without an item leave nothing behind. -/
theorem filter_map_text? {slots : List Slot} (h : ∀ slot ∈ slots, slot.Proper) :
    (slots.map fun slot => slot.text?.getD []).filter (fun item => !item.isEmpty) = slots.filterMap Slot.text? := by
  induction slots with
  | nil => rfl
  | cons slot slots ih =>
      have hslots := ih fun other hother => h other (List.mem_cons_of_mem _ hother)
      rw [List.map_cons, List.filterMap_cons]
      cases htext : slot.text? with
      | none => rwa [List.filter_cons_of_neg (by simp)]
      | some text =>
          have hne := (h slot List.mem_cons_self).ne_nil htext
          rw [List.filter_cons_of_pos (by simpa using hne), hslots]
          rfl

/-- **Lists.** The items of a written list are read back in their order, with the commas and blanks that stand in
quotes. Blanks around an item and slots without one make no difference. -/
theorem splitList_written {slots : List Slot} (h : ∀ slot ∈ slots, slot.Proper) :
    splitList (joinWith [','] (slots.map Slot.chars)) = slots.filterMap Slot.text? := by
  by_cases hne : slots = []
  · subst hne
    rfl
  · have hbalanced : ∀ text ∈ slots.map Slot.chars, Balanced text := by
      rw [List.forall_mem_map]
      exact fun slot hslot => (h slot hslot).balanced
    have hitems : slots.map (fun slot => unquote (trim slot.chars)) = slots.map fun slot => slot.text?.getD [] :=
      List.map_congr_left fun slot hslot => (h slot hslot).unquote_trim
    rw [splitList, splitCommas_joinWith (by simpa using hne) hbalanced, List.map_map]
    exact (congrArg _ hitems).trans (filter_map_text? h)

/-- Two items in quotes, one of which is blank, and one without quotes, with gaps between them. -/
theorem splitList_written_gaps :
    (∀ slot ∈ [Slot.item [' '] (.quoted "Lee, Ann".toList) [], .blank ['\t'], .blank [],
        .item [] (.bare "a b".toList) [' ', ' '], .item [] (.quoted [' ']) []], slot.Proper)
      ∧ splitList " \"Lee, Ann\",\t,,a b  ,\" \"".toList = ["Lee, Ann".toList, "a b".toList, [' ']] := by
  have hblanks : ∀ n, Blanks (List.replicate n ' ') := fun n c hc => (List.mem_replicate.1 hc).2 ▸ by decide
  have htight : Tight "a b".toList :=
    ⟨fun c hc => Option.some.inj hc ▸ (by decide), fun c hc => Option.some.inj hc ▸ (by decide)⟩
  have hslots : ∀ slot ∈ [Slot.item [' '] (.quoted "Lee, Ann".toList) [], .blank ['\t'], .blank [],
      .item [] (.bare "a b".toList) [' ', ' '], .item [] (.quoted [' ']) []], slot.Proper := by
    simp only [List.forall_mem_cons]
    exact ⟨.item (hblanks 1) (.quoted (by decide) (by decide)) (hblanks 0),
      .blank fun c hc => List.mem_singleton.1 hc ▸ by decide, .blank Text.blanks_nil,
      .item (hblanks 0) (.bare (by decide) (by decide) (by decide) htight) (hblanks 2),
      .item (hblanks 0) (.quoted (by decide) (by decide)) (hblanks 0), fun _ h => absurd h List.not_mem_nil⟩
  have hread := splitList_written hslots
  rw [show joinWith [','] _ = " \"Lee, Ann\",\t,,a b  ,\" \"".toList by decide] at hread
  exact ⟨hslots, hread⟩

end FeatureQuery.Literal
