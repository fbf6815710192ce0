import FeatureQuery.Proofs.Literal.Relative
import FeatureQuery.Proofs.Meaning
import FeatureQuery.Proofs.Text.Collapsing

/-!
# Literals of collapsed texts

A collapsed value denotes what the value does, except that its texts are collapsed too. Numbers, dates and
relative literals hold no blanks, and of the name of an enumeration's value only the letters and digits count,
so only a text that is compared as it stands shows a difference.

## Main results

* `ofRaw_collapse`: the literals of a collapsed value.
* `Binding.narrow_collapsed`: they stay so when they are narrowed to a property.
* `MetBy.collapsed_iff`: values that are no texts meet the same literals.
-/

namespace FeatureQuery

open FeatureQuery.Text (collapse collapseFrom collapseFrom_cons collapse_cons isAlphanumeric isBlank splitDots
  splitWhere trim)

/-- The literal with the blanks in its texts collapsed. -/
def Literal.collapsed : Literal → Literal
  | text s => text (String.ofList (collapse s.toList))
  | range low high => range low.collapsed high.collapsed
  | l => l

/-! ### Pieces -/

namespace Literal

/-- The commas outside quotes separate the same pieces of a value and of the collapsed one. -/
theorem splitCommas_collapseFrom {quoted : Bool} (inBlank : Bool) {cs piece : List Char}
    {pieces : List (List Char)} (h : splitCommas quoted cs = piece :: pieces) :
    splitCommas quoted (collapseFrom inBlank cs) = collapseFrom inBlank piece :: pieces.map collapse := by
  induction cs generalizing quoted inBlank piece pieces with
  | nil =>
      obtain ⟨rfl, rfl⟩ := List.cons.inj h
      rfl
  | cons c cs ih =>
      have hmark : ∀ {d}, isBlank d = true → d ≠ '"' ∧ d ≠ ',' := by
        intro d hd
        constructor
        · exact Text.ne_of_isBlank hd (by decide)
        · exact Text.ne_of_isBlank hd (by decide)
      by_cases hsep : c = ',' ∧ quoted = false
      · obtain ⟨rfl, rfl⟩ := hsep
        rw [splitCommas, if_pos ⟨rfl, rfl⟩, List.cons.injEq] at h
        obtain ⟨rfl, rfl⟩ := h
        cases hcs : splitCommas false cs with
        | nil => exact absurd hcs (splitCommas_ne_nil false cs)
        | cons first rest =>
            rw [collapseFrom_cons (by decide), splitCommas, if_pos ⟨rfl, rfl⟩, collapse, ih false hcs]
            rfl
      · obtain ⟨first, rest, hcs, hall⟩ := splitCommas_cons hsep cs
        obtain ⟨rfl, rfl⟩ := List.cons.inj (hall.symm.trans h)
        by_cases hc : isBlank c = true
        · rw [if_neg (hmark hc).1] at hcs
          cases inBlank with
          | true => rw [Text.collapseFrom_true_cons hc, Text.collapseFrom_true_cons hc, ih true hcs]
          | false =>
              have hspace : ¬ (' ' = ',' ∧ quoted = false) := by
                intro hcomma
                exact absurd hcomma.1 (by decide)
              obtain ⟨first', rest', hfirst, hall⟩ := splitCommas_cons hspace (collapseFrom true cs)
              rw [if_neg (by decide), ih true hcs, List.cons.injEq] at hfirst
              obtain ⟨rfl, rfl⟩ := hfirst
              rw [Text.collapseFrom_false_cons hc, Text.collapseFrom_false_cons hc, hall]
        · rw [Bool.not_eq_true] at hc
          obtain ⟨first', rest', hfirst, hall⟩ := splitCommas_cons hsep (collapse cs)
          rw [collapse, ih false hcs, List.cons.injEq] at hfirst
          obtain ⟨rfl, rfl⟩ := hfirst
          rw [collapseFrom_cons hc, collapseFrom_cons hc, hall, collapse]

/-- Quotes around a text can be taken off before or after. -/
theorem unquote_collapse (cs : List Char) : unquote (collapse cs) = collapse (unquote cs) := by
  have hquote : isBlank '"' = false := by decide
  by_cases hhead : cs.head? = some '"'
  · obtain ⟨inner, rfl⟩ := List.head?_eq_some_iff.1 hhead
    by_cases hlast : inner.getLast? = some '"'
    · obtain ⟨core, rfl⟩ := List.getLast?_eq_some_iff.1 hlast
      rw [collapse_cons hquote, Text.collapse_concat hquote, ← List.cons_append, unquote_quoted,
        ← List.cons_append, unquote_quoted]
    · have hlast' : (collapse inner).getLast? ≠ some '"' :=
        fun h => hlast (Text.getLast?_of_getLast?_collapseFrom hquote h)
      rw [collapse_cons hquote, unquote, if_neg hlast', unquote, if_neg hlast, collapse_cons hquote]
  · have hhead' : (collapse cs).head? ≠ some '"' :=
      fun h => hhead ((Text.head?_collapse_iff hquote cs).1 h)
    rw [unquote_of_head hhead, unquote_of_head hhead']

/-- The items of a collapsed list are those of the list, collapsed. -/
theorem splitList_collapse (raw : List Char) : splitList (collapse raw) = (splitList raw).map collapse := by
  have hitem : ∀ inBlank cs, unquote (trim (collapseFrom inBlank cs)) = collapse (unquote (trim cs)) :=
    fun inBlank cs => by rw [Text.trim_collapseFrom, unquote_collapse]
  have hempty : (fun item => !item.isEmpty) ∘ collapse = fun item => !item.isEmpty :=
    funext fun item => congrArg not (Text.isEmpty_collapse item)
  cases hcs : splitCommas false raw with
  | nil => exact absurd hcs (splitCommas_ne_nil false raw)
  | cons piece pieces =>
      have hmap : (collapseFrom false piece :: pieces.map collapse).map (fun item => unquote (trim item))
          = ((piece :: pieces).map fun item => unquote (trim item)).map collapse := by
        rw [List.map_cons, List.map_map, List.map_map, List.map_cons, hitem]
        refine congrArg (List.cons _) (List.map_congr_left fun item _ => ?_)
        exact hitem false item
      rw [splitList, splitList, collapse, splitCommas_collapseFrom false hcs, hcs, hmap, List.filter_map,
        hempty]

/-! ### Scalars -/

/-- No blank stands in a relative literal. -/
theorem not_isBlank_of_readRelative? {cs : List Char} {relative : Relative}
    (h : readRelative? cs = some relative) : ∀ c ∈ cs, isBlank c = false := by
  have hblank : ∀ c, isBlank c = true → isRelativeChar c = false := Text.forall_blank (by decide +kernel)
  intro c hc
  have hchar : isRelativeChar c = true := (isRelativeChar_of_readRelative? h).2 c hc
  exact Text.not_isBlank_of_ne hblank (Bool.ne_false_iff.2 hchar)

/-- A collapsed text is read as the same relative literal. -/
theorem readRelative?_collapse (cs : List Char) : readRelative? (collapse cs) = readRelative? cs :=
  Text.reader_collapse (fun _ _ h => not_isBlank_of_readRelative? h) cs

/-- A character of a text separates its pieces or stands in one of them. -/
theorem mem_or_of_mem_splitWhere (p : Char → Bool) {cs : List Char} {c : Char} (h : c ∈ cs) :
    p c = true ∨ ∃ piece ∈ splitWhere p cs, c ∈ piece := by
  induction cs with
  | nil => exact absurd h List.not_mem_nil
  | cons d cs ih =>
      cases hcs : splitWhere p cs with
      | nil => exact absurd hcs (Text.splitWhere_ne_nil p cs)
      | cons first rest =>
          by_cases hd : p d = true
          · rw [Text.splitWhere_cons_of_pos hd]
            rcases List.mem_cons.1 h with rfl | h
            · exact Or.inl hd
            · refine (ih h).imp_right fun ⟨piece, hpiece, hc⟩ => ?_
              exact ⟨piece, List.mem_cons_of_mem _ hpiece, hc⟩
          · rw [Text.splitWhere_cons_of_neg (Bool.eq_false_iff.2 hd) hcs]
            rcases List.mem_cons.1 h with rfl | h
            · exact Or.inr ⟨_, List.mem_cons_self, List.mem_cons_self⟩
            · refine (ih h).imp_right fun ⟨piece, hpiece, hc⟩ => ?_
              rw [hcs] at hpiece
              rcases List.mem_cons.1 hpiece with rfl | hpiece
              · exact ⟨_, List.mem_cons_self, List.mem_cons_of_mem d hc⟩
              · exact ⟨piece, List.mem_cons_of_mem _ hpiece, hc⟩

/-- No blank stands in a natural number. -/
theorem not_isBlank_of_readNat? {cs : List Char} {n : Nat} (h : Number.readNat? cs = some n) :
    ∀ c ∈ cs, isBlank c = false :=
  fun c hc => Text.not_isBlank_of_isDigit ((Number.readNat?_eq_some_iff.1 h).2.1 c hc)

/-- No blank stands in a date. -/
theorem readDate?_collapse (cs : List Char) : readDate? (collapse cs) = readDate? cs := by
  refine Text.reader_collapse (fun ds instant h c hc => ?_) cs
  rw [readDate?] at h
  split at h
  · next year month day hpieces =>
      split at h
      · simp only [Option.bind_eq_bind, Option.bind_eq_some_iff] at h
        obtain ⟨y, hyear, m, hmonth, d, hday, -⟩ := h
        rcases mem_or_of_mem_splitWhere (· == '-') hc with hsep | ⟨piece, hpiece, hmem⟩
        · rw [eq_of_beq hsep]
          decide
        · rw [hpieces, List.mem_cons, List.mem_cons, List.mem_singleton] at hpiece
          rcases hpiece with rfl | rfl | rfl
          · exact not_isBlank_of_readNat? hyear c hmem
          · exact not_isBlank_of_readNat? hmonth c hmem
          · exact not_isBlank_of_readNat? hday c hmem
      · exact absurd h (by simp)
  · exact absurd h (by simp)

theorem collapsed_text (cs : List Char) :
    (text (String.ofList cs)).collapsed = text (String.ofList (collapse cs)) := by
  rw [collapsed, String.toList_ofList]

/-- A relative literal denotes no text. -/
theorem collapsed_of_toLiteral? {context : Context} {relative : Relative} {l : Literal}
    (h : relative.toLiteral? context = some l) : l.collapsed = l := by
  rcases Relative.toLiteral?_cases h with ⟨t, rfl⟩ | ⟨n, rfl⟩
  · rfl
  · rfl

/-- The literal of a collapsed item. -/
theorem scalar_collapse (context : Context) (raw : List Char) :
    scalar context (collapse raw) = (scalar context raw).collapsed := by
  rw [scalar, scalar, collapse, Text.trim_collapseFrom, unquote_collapse, readRelative?_collapse,
    readDate?_collapse]
  cases readRelative? (unquote (trim raw)) with
  | some relative =>
      dsimp only
      cases hl : relative.toLiteral? context with
      | none => exact (collapsed_text _).symm
      | some l => exact (collapsed_of_toLiteral? hl).symm
  | none =>
      cases readDate? (unquote (trim raw)) with
      | none => exact (collapsed_text _).symm
      | some instant => rfl

/-- The literal of a text with collapsed bounds. -/
theorem ofBounds_collapse (context : Context) (raw low high : List Char) :
    ofBounds context (collapse raw) (collapse low) (collapse high)
      = (ofBounds context raw low high).collapsed := by
  have hbound : ∀ cs, unquote (trim (collapse cs)) = collapse (unquote (trim cs)) := by
    intro cs
    rw [collapse, Text.trim_collapseFrom, unquote_collapse]
  rw [ofBounds, ofBounds, hbound, hbound, Text.isEmpty_collapse, Text.isEmpty_collapse, unquote_collapse,
    scalar_collapse, scalar_collapse]
  split
  · exact (collapsed_text _).symm
  · rfl

/-- Two dots separate as many pieces of the collapsed text. -/
theorem splitDots_collapse (raw : List Char) : splitDots (collapse raw) = (splitDots raw).map collapse := by
  cases hdots : splitDots raw with
  | nil => exact absurd hdots (Text.splitDots_ne_nil raw)
  | cons piece pieces => exact Text.splitDots_collapseFrom false hdots

/-- **Collapsed values.** The literals of a collapsed value are those of the value, collapsed. -/
theorem ofRaw_collapse (context : Context) (raw : List Char) :
    ofRaw context (collapse raw) = (ofRaw context raw).map collapsed := by
  have hdots := splitDots_collapse raw
  have hitems := splitList_collapse raw
  rcases ofRaw_cases context raw with ⟨low, high, hpair, heq⟩ | ⟨hlength, hcases⟩
  · rw [hpair] at hdots
    rw [heq, ofRaw, hdots]
    exact congrArg (fun l => [l]) (ofBounds_collapse context raw low high)
  · rcases ofRaw_cases context (collapse raw) with ⟨low, high, hpair, -⟩ | ⟨-, hcases'⟩
    · have htwo := congrArg List.length (hdots.symm.trans hpair)
      rw [List.length_map] at htwo
      exact absurd htwo hlength
    · rw [hitems, ne_eq, List.map_eq_nil_iff] at hcases'
      rcases hcases with ⟨hnil, heq⟩ | ⟨hne, heq⟩
      · rcases hcases' with ⟨-, heq'⟩ | ⟨hne, -⟩
        · rw [heq, heq']
          rfl
        · exact absurd hnil hne
      · rcases hcases' with ⟨hnil, -⟩ | ⟨-, heq'⟩
        · exact absurd hnil hne
        · rw [heq, heq', List.map_map, List.map_map]
          exact List.map_congr_left fun item _ => scalar_collapse context item

end Literal

/-! ### Narrowing -/

/-- No blank stands in an integer. -/
theorem not_isBlank_of_readInt? {cs : List Char} {n : Int} (h : Number.readInt? cs = some n) :
    ∀ c ∈ cs, isBlank c = false := by
  have hnat : ∀ {ds : List Char} {f : Int → Int},
      (Number.readNat? ds >>= fun m => pure (m : Int)).map f = some n →
        ∀ c ∈ ds, isBlank c = false := by
    intro ds f hread
    obtain ⟨i, hi, -⟩ := Option.map_eq_some_iff.1 hread
    obtain ⟨m, hm, -⟩ := Option.bind_eq_some_iff.1 hi
    exact Literal.not_isBlank_of_readNat? hm
  rw [Number.readInt?.eq_def] at h
  split at h
  · exact List.forall_mem_cons.2 ⟨by decide, hnat h⟩
  · exact List.forall_mem_cons.2 ⟨by decide, hnat h⟩
  · exact hnat h

/-- Collapsing the blanks of a text changes no integer, since an integer has none. -/
theorem readInt64?_collapse (cs : List Char) : Number.readInt64? (collapse cs) = Number.readInt64? cs := by
  refine Text.reader_collapse (fun ds n h => ?_) cs
  obtain ⟨i, hi, -⟩ := Option.bind_eq_some_iff.1 h
  exact not_isBlank_of_readInt? hi

/-- No blank stands in the exponent of a decimal. -/
theorem not_isBlank_of_readExponent? {cs : List Char} {n : Int}
    (h : Number.Double.readExponent? cs = some n) : ∀ c ∈ cs, isBlank c = false := by
  cases cs with
  | nil => exact fun c hc => absurd hc List.not_mem_nil
  | cons c cs =>
      rw [Number.Double.readExponent?] at h
      split at h
      · next hmark =>
          refine List.forall_mem_cons.2 ⟨?_, not_isBlank_of_readInt? h⟩
          rcases hmark with rfl | rfl
          · decide
          · decide
      · exact absurd h (by simp)

/-- A run of digits holds no blanks. -/
theorem not_isBlank_of_mem_digits {cs : List Char} {c : Char} (h : c ∈ cs.takeWhile Char.isDigit) :
    isBlank c = false :=
  Text.not_isBlank_of_isDigit (List.all_eq_true.1 List.all_takeWhile c h)

/-- What follows a run of digits decides whether a text holds blanks. -/
theorem not_isBlank_of_dropWhile {cs : List Char}
    (h : ∀ c ∈ cs.dropWhile Char.isDigit, isBlank c = false) : ∀ c ∈ cs, isBlank c = false := by
  intro c hc
  rw [← List.takeWhile_append_dropWhile (p := Char.isDigit) (l := cs)] at hc
  rcases List.mem_append.1 hc with hdigit | hrest
  · exact not_isBlank_of_mem_digits hdigit
  · exact h c hrest

/-- No blank stands in a decimal. -/
theorem not_isBlank_of_readDecimal? {negative : Bool} {cs : List Char} {x : Number.Double}
    (h : Number.Double.readDecimal? negative cs = some x) : ∀ c ∈ cs, isBlank c = false := by
  have hexponent : ∀ {rest : List Char} {f : Int → Number.Double},
      (Number.Double.readExponent? rest >>= fun n => pure (f n)) = some x →
        ∀ c ∈ rest, isBlank c = false := by
    intro rest f hread
    obtain ⟨n, hn, -⟩ := Option.bind_eq_some_iff.1 hread
    exact not_isBlank_of_readExponent? hn
  refine not_isBlank_of_dropWhile ?_
  rw [Number.Double.readDecimal?] at h
  split at h
  next fraction rest hparts =>
    split at h
    · exact absurd h (by simp)
    · have hrest := hexponent h
      split at hparts
      · next ds hpoint =>
          obtain ⟨-, rfl⟩ := Prod.mk.inj hparts
          rw [hpoint]
          exact List.forall_mem_cons.2 ⟨by decide, not_isBlank_of_dropWhile hrest⟩
      · obtain ⟨-, rfl⟩ := Prod.mk.inj hparts
        exact hrest

/-- A letter of a text that is a word in lowercase is no blank. -/
theorem not_isBlank_of_word {cs word : List Char} (hword : word.all (fun c => !isBlank c) = true)
    (h : cs.map Char.toLower = word) : ∀ c ∈ cs, isBlank c = false := by
  intro c hc
  refine Bool.eq_false_iff.2 fun hblank => ?_
  have hlower : ∀ d, isBlank d = true → isBlank d.toLower = true := Text.forall_blank (by decide)
  have hmem : c.toLower ∈ word := h ▸ List.mem_map_of_mem hc
  have hplain := List.all_eq_true.1 hword _ hmem
  rw [hlower c hblank] at hplain
  exact Bool.false_ne_true hplain

/-- No blank stands in a number after its sign. -/
theorem not_isBlank_of_readUnsigned? {negative : Bool} {cs : List Char} {x : Number.Double}
    (h : Number.Double.readUnsigned? negative cs = some x) : ∀ c ∈ cs, isBlank c = false := by
  rw [Number.Double.readUnsigned?] at h
  have hword : ∀ {word : String}, String.ofList (cs.map Char.toLower) = word →
      cs.map Char.toLower = word.toList := by
    intro word heq
    rw [← heq, String.toList_ofList]
  split at h
  · next hinfinite =>
      rcases hinfinite with hinf | hinf
      · exact not_isBlank_of_word (by decide) (hword hinf)
      · exact not_isBlank_of_word (by decide) (hword hinf)
  · split at h
    · next hnan => exact not_isBlank_of_word (by decide) (hword hnan)
    · exact not_isBlank_of_readDecimal? h

/-- Nor does it change a floating point number. -/
theorem readDouble?_collapse (cs : List Char) :
    Number.Double.read? (collapse cs) = Number.Double.read? cs := by
  refine Text.reader_collapse (fun ds x h => ?_) cs
  rw [Number.Double.read?.eq_def] at h
  split at h
  · exact List.forall_mem_cons.2 ⟨by decide, not_isBlank_of_readUnsigned? h⟩
  · exact List.forall_mem_cons.2 ⟨by decide, not_isBlank_of_readUnsigned? h⟩
  · exact not_isBlank_of_readUnsigned? h

/-- Only letters and digits of a name count, and blanks around an integer do not. -/
theorem Enumeration.lookup?_collapse (e : Enumeration) (content : List Char) :
    e.lookup? (String.ofList (collapse content)) = e.lookup? (String.ofList content) := by
  have halphanumeric : ∀ c, isBlank c = true → isAlphanumeric c = false :=
    Text.forall_blank (by decide +kernel)
  have hname : normalizeName (collapse content) = normalizeName content := by
    rw [normalizeName, normalizeName, collapse, Text.filter_collapseFrom halphanumeric]
  rw [lookup?, lookup?, String.toList_ofList, String.toList_ofList, codeOfName?, codeOfName?, hname,
    collapse, Text.trim_collapseFrom, readInt64?_collapse]

namespace Binding

/-- Collapsed text binds to a property of integers as the text does. -/
theorem narrowToInt_collapse (content : List Char) :
    narrowToInt (String.ofList (collapse content)) = (narrowToInt (String.ofList content)).collapsed := by
  rw [narrowToInt, narrowToInt, String.toList_ofList, String.toList_ofList, readInt64?_collapse,
    readDouble?_collapse]
  cases Number.readInt64? content with
  | some n => rfl
  | none =>
      cases Number.Double.read? content with
      | some x => rfl
      | none => exact (Literal.collapsed_text content).symm

/-- A collapsed text is narrowed alike. -/
theorem narrowText_collapse (binding : Binding) (content : List Char) :
    binding.narrowText (String.ofList (collapse content))
      = (binding.narrowText (String.ofList content)).collapsed := by
  have htext := (Literal.collapsed_text content).symm
  rw [narrowText.eq_def, narrowText.eq_def]
  split
  · next enumeration _ =>
      rw [Enumeration.lookup?_collapse]
      cases enumeration.lookup? (String.ofList content) with
      | some code => rfl
      | none => exact htext
  · exact narrowToInt_collapse content
  · rw [String.toList_ofList, String.toList_ofList, readDouble?_collapse]
    cases Number.Double.read? content with
    | some x => rfl
    | none => exact htext
  · exact htext

/-- **Narrowing.** A collapsed literal is narrowed alike. -/
theorem narrow_collapsed (binding : Binding) (l : Literal) :
    binding.narrow l.collapsed = (binding.narrow l).collapsed := by
  induction l with
  | text content =>
      have htext := binding.narrowText_collapse content.toList
      rwa [String.ofList_toList] at htext
  | range low high ihlow ihhigh =>
      rw [Literal.collapsed, narrow, narrow, ihlow, ihhigh, Literal.collapsed]
  | _ => rfl

/-- The literals of a collapsed value for a field. -/
theorem literalsFor_collapse (context : Context) (field : Field) (raw : String) :
    Store.literalsFor context field (String.ofList (collapse raw.toList))
      = (Store.literalsFor context field raw).map Literal.collapsed := by
  rw [Store.literalsFor, Store.literalsFor, String.toList_ofList, Literal.ofRaw_collapse, List.map_map,
    List.map_map]
  exact List.map_congr_left fun l _ => field.binding.narrow_collapsed l

end Binding

/-! ### Comparing -/

namespace Literal

/-- A text compares with texts only. -/
theorem not_comparesWith_text {op : Operator} {values : List Value} (h : ∀ v ∈ values, v.kind ≠ .text)
    (content : String) : ¬ (text content).ComparesWith op values := by
  rintro ⟨operand, hoperand, v, hv, o, horder, -⟩
  obtain rfl := Option.some.inj hoperand
  rcases Value.kind_of_order horder with heq | ⟨-, hfloat⟩ | ⟨-, hint⟩
  · exact h v hv heq
  · exact ValueKind.noConfusion hfloat
  · exact ValueKind.noConfusion hint

/-- Values that are no texts compare alike with a literal and with the collapsed one. -/
theorem ComparesWith.collapsed_iff {op : Operator} {values : List Value}
    (h : ∀ v ∈ values, v.kind ≠ .text) (l : Literal) :
    l.collapsed.ComparesWith op values ↔ l.ComparesWith op values := by
  cases l with
  | text content => exact iff_of_false (not_comparesWith_text h _) (not_comparesWith_text h _)
  | _ => exact Iff.rfl

/-- **Comparing.** Values that are no texts meet a literal exactly if they meet the collapsed one. -/
theorem MetBy.collapsed_iff {op : Operator} {values : List Value} (h : ∀ v ∈ values, v.kind ≠ .text)
    (l : Literal) : l.collapsed.MetBy op values ↔ l.MetBy op values := by
  cases l with
  | range low high =>
      exact and_congr (ComparesWith.collapsed_iff h low) (ComparesWith.collapsed_iff h high)
  | text content => exact ComparesWith.collapsed_iff h (text content)
  | _ => exact Iff.rfl

end Literal

end FeatureQuery
