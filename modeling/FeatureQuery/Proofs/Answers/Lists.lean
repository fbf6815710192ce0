import FeatureQuery.Proofs.Answers.Alternatives
import FeatureQuery.Proofs.Answers.Negation
import FeatureQuery.Proofs.Answers.Selected
import FeatureQuery.Proofs.Literal.Lists

/-!
# Lists of items

Commas between items make a list of them, which stands for any of its items. So a test with a list selects what the
tests with its items select together, although it is put to the store in another way: an equality with a list in
one query, which asks for one of several values. A negated test with a single item may be answered by the
complementary operator, a negated test with a list never is. It still leaves the features that none of the tests
with the items selects, which is what the negated tests with the items leave one after the other.

## Main results

* `Literal.ofRaw_items`: items with commas between them denote what each of them does.
* `Store.mem_leftBy_iff`: what an alternative of negated tests leaves.
* `Store.selectedBy_items`: tests with lists, plain and negated.
-/

namespace FeatureQuery

open FeatureQuery.Text (splitDots)

/-! ### Items -/

namespace Literal

/-- A text that can stand as an item of a list as it is: it could stand as a bound, and it holds no comma. -/
structure IsItem (cs : List Char) : Prop extends IsBound cs where
  comma : ',' ∉ cs

instance (cs : List Char) : Decidable (IsItem cs) :=
  decidable_of_iff (IsBound cs ∧ ',' ∉ cs) ⟨fun h => ⟨h.1, h.2⟩, fun h => ⟨h.toIsBound, h.comma⟩⟩

/-- An item with more items behind it. -/
theorem toList_intercalate_cons (item : String) {items : List String} (hne : items ≠ []) :
    (",".intercalate (item :: items)).toList = item.toList ++ ',' :: (",".intercalate items).toList := by
  rw [String.intercalate_cons_of_ne_nil hne]
  simp

/-- The commas separate the items. -/
theorem splitCommas_items {items : List String} (hne : items ≠ []) (hitems : ∀ item ∈ items, IsItem item.toList) :
    splitCommas false (",".intercalate items).toList = items.map String.toList := by
  have hbalanced : ∀ text ∈ items.map String.toList, Balanced text := by
    rw [List.forall_mem_map]
    intro item h
    exact balanced_of_plain (hitems item h).comma fun hquote => ((hitems item h).plain '"' hquote).2 rfl
  rw [String.toList_intercalate]
  exact splitCommas_joinWith (by simpa using hne) hbalanced

/-- No two dots follow each other in a list of items. -/
theorem no_two_dots_items {items : List String} (hne : items ≠ []) (hitems : ∀ item ∈ items, IsItem item.toList) :
    ¬ ['.', '.'] <:+: (",".intercalate items).toList := by
  induction items with
  | nil => exact absurd rfl hne
  | cons item items ih =>
      have hitem := hitems item List.mem_cons_self
      by_cases hlast : items = []
      · subst hlast
        exact hitem.dots
      · rw [toList_intercalate_cons item hlast]
        intro hdots
        rcases Text.two_dots_of_append (by decide) hdots with hfirst | hrest
        · exact hitem.dots hfirst
        · exact ih hlast (fun other hother => hitems other (List.mem_cons_of_mem _ hother)) hrest

/-- **Items.** Items with commas between them denote what each of them does. -/
theorem ofRaw_items {items : List String} (hne : items ≠ []) (hitems : ∀ item ∈ items, IsItem item.toList)
    (context : Context) :
    ofRaw context (",".intercalate items).toList = items.map fun item => scalar context item.toList := by
  have hlist : splitList (",".intercalate items).toList = items.map String.toList := by
    have hplain : items.map (fun item => unquote (Text.trim item.toList)) = items.map String.toList :=
      List.map_congr_left fun item hitem => (hitems item hitem).unquote_trim
    rw [splitList, splitCommas_items hne hitems, List.map_map]
    refine (congrArg _ hplain).trans (List.filter_eq_self.2 fun cs hcs => ?_)
    obtain ⟨item, hitem, rfl⟩ := List.mem_map.1 hcs
    simpa using (hitems item hitem).ne_nil
  rcases ofRaw_cases context (",".intercalate items).toList with ⟨low, high, hpair, -⟩ | ⟨-, ⟨hnil, -⟩ | ⟨-, heq⟩⟩
  · rw [Text.splitDots_of_no_two_dots (no_two_dots_items hne hitems)] at hpair
    exact absurd (congrArg List.length hpair) (by simp)
  · rw [hlist, List.map_eq_nil_iff] at hnil
    exact absurd hnil hne
  · rw [heq, hlist, List.map_map]
    rfl

/-- An item denotes one scalar. -/
theorem IsItem.ofRaw_eq {item : String} (h : IsItem item.toList) (context : Context) :
    ofRaw context item.toList = [scalar context item.toList] := by
  have hitems := ofRaw_items (List.cons_ne_nil item []) (List.forall_mem_singleton.2 h) context
  rwa [String.intercalate_singleton] at hitems

end Literal

/-! ### Tests with lists -/

/-- A test with a list selects what the tests with its items select together. -/
theorem Store.mem_selectedBy_items {store : Store} (online : store.Online) {items : List String} (hne : items ≠ [])
    (hitems : ∀ item ∈ items, Literal.IsItem item.toList) (context : Context) (name : String) (op : Operator)
    (id : Int64) :
    id ∈ store.selectedBy context name op (",".intercalate items)
      ↔ ∃ item ∈ items, id ∈ store.selectedBy context name op item := by
  by_cases hfield : ∃ field, Field.ofName? name = some field ∧ field.binding.indexed = true
  · obtain ⟨field, hname, hindexed⟩ := hfield
    have hlist : literalsFor context field (",".intercalate items)
        = items.map fun item => field.binding.narrow (.scalar context item.toList) := by
      rw [literalsFor, Literal.ofRaw_items hne hitems, List.map_map]
      rfl
    have hitem : ∀ item ∈ items, (id ∈ store.selectedBy context name op item
        ↔ ∃ values ∈ field.binding.valuesUnder store id,
            (field.binding.narrow (.scalar context item.toList)).MetBy op values) :=
      fun item h => mem_selectedBy_single_iff online hname hindexed ((hitems item h).ofRaw_eq context)
    rw [mem_selectedBy_iff online hname hindexed, hlist]
    constructor
    · rintro ⟨values, hvalues, l, hl, hmet⟩
      obtain ⟨item, h, rfl⟩ := List.mem_map.1 hl
      exact ⟨item, h, (hitem item h).2 ⟨values, hvalues, hmet⟩⟩
    · rintro ⟨item, h, hid⟩
      obtain ⟨values, hvalues, hmet⟩ := (hitem item h).1 hid
      exact ⟨values, hvalues, _, List.mem_map_of_mem h, hmet⟩
  · have hempty : ∀ raw, store.selectedBy context name op raw = .empty := selectedBy_of_not_indexed hfield op
    simp only [hempty, IdSet.not_mem_empty, and_false, exists_false]

/-! ### Negated tests -/

/-- A negated test of a field, with the answer to it. -/
def Store.negatedTest (store : Store) (context : Context) (name : String) (op : Operator) (raw : String) :
    AnsweredTerm where
  term := ⟨true, false, .field name op raw⟩
  answer := (store.resolveField context name op raw true).value.answer

/-- What is left of all features by an alternative of negated tests of a field, one with each of some values. -/
def Store.leftBy (store : Store) (context : Context) (name : String) (op : Operator) (raws : List String) : IdSet :=
  let clause := raws.map (store.negatedTest context name op)
  (store.combine ⟨[clause.map (·.term)]⟩ (clause.map (·.answer))).value

namespace Store

variable {store : Store} {context : Context} {name : String} {op : Operator}

/-- The answer to a negated test has what the test selects, or all features but these if it says so. -/
theorem mem_answer_negatedTest_iff (reachable : store.Reachable) (online : store.Online) {raw : String} {id : Int64} :
    id ∈ (store.negatedTest context name op raw).answer.ids
      ↔ if (store.negatedTest context name op raw).answer.complemented = true then
          (∃ feature ∈ store.features, feature.id = id) ∧ id ∉ store.selectedBy context name op raw
        else id ∈ store.selectedBy context name op raw := by
  by_cases hfield : ∃ field, Field.ofName? name = some field ∧ field.binding.indexed = true
  · obtain ⟨field, hname, hindexed⟩ := hfield
    obtain ⟨ids, hanswer, hids⟩ := online.exists_answer_resolveField hname hindexed context op raw true
    obtain ⟨plain, hplain, hselected⟩ := online.exists_answer_resolveField hname hindexed context op raw false
    rw [selectedBy, hplain, negatedTest, hanswer]
    dsimp only
    rw [hids, hselected, Binding.plan_complemented, Bool.true_and]
    split
    · next hcan =>
        rw [Binding.plan, Bool.true_and, hcan]
        exact field.exists_select_complement_iff reachable.consistent (soleRange_literalsFor context field raw) hcan
          op id
    · next hcan =>
        rw [Binding.plan, Bool.true_and, Bool.eq_false_iff.2 hcan]
        rfl
  · rw [selectedBy, negatedTest, answer_of_not_indexed hfield, answer_of_not_indexed hfield]
    rfl

/-- A query of one alternative matches what the alternative does. -/
theorem mem_combine_single_iff (online : .feature ∉ store.offline) (clause : AnsweredClause) (id : Int64) :
    id ∈ (store.combine ⟨[clause.map (·.term)]⟩ (clause.map (·.answer))).value ↔ clause.Matches store id := by
  have hpair := Query.pair_append clause []
  rw [List.append_nil] at hpair
  have hsome : ¬ (Query.mk [clause.map (·.term)]).isEmpty = true := Bool.false_ne_true
  rw [value_combine, Query.combineFrom, if_neg hsome, Query.mem_matchesOf, Query.pairClauses, Query.pairClauses,
    hpair]
  simp only [List.mem_singleton, exists_eq_left, matches_iff online]

/-- **Negated tests.** An alternative of negated tests leaves the features that none of the tests selects. -/
theorem mem_leftBy_iff (reachable : store.Reachable) (online : store.Online) {raws : List String} {id : Int64} :
    id ∈ store.leftBy context name op raws
      ↔ (∃ feature ∈ store.features, feature.id = id)
        ∧ ∀ raw ∈ raws, id ∉ store.selectedBy context name op raw := by
  rw [leftBy, mem_combine_single_iff (online .feature)]
  constructor
  · rintro ⟨hkept, htaken, hstored⟩
    rw [List.forall_mem_map] at hkept htaken hstored
    have hcomplemented : ∀ raw ∈ raws, (store.negatedTest context name op raw).answer.complemented = true →
        (∃ feature ∈ store.features, feature.id = id) ∧ id ∉ store.selectedBy context name op raw := by
      intro raw hraw hmark
      have hid := hkept raw hraw (Or.inr hmark)
      rwa [mem_answer_negatedTest_iff reachable online, if_pos hmark] at hid
    constructor
    · by_cases hplain : ∀ raw ∈ raws, (store.negatedTest context name op raw).answer.complemented = false
      · exact hstored fun raw hraw => ⟨rfl, hplain raw hraw⟩
      · simp only [not_forall, Bool.not_eq_false] at hplain
        obtain ⟨raw, hraw, hmark⟩ := hplain
        exact (hcomplemented raw hraw hmark).1
    · intro raw hraw
      cases hmark : (store.negatedTest context name op raw).answer.complemented with
      | true => exact (hcomplemented raw hraw hmark).2
      | false =>
          have hid := htaken raw hraw ⟨rfl, hmark⟩
          rwa [mem_answer_negatedTest_iff reachable online, if_neg (Bool.eq_false_iff.1 hmark)] at hid
  · rintro ⟨hstored, hnone⟩
    refine ⟨?_, ?_, fun _ => hstored⟩
    · rw [List.forall_mem_map]
      rintro raw hraw (hplain | hmark)
      · exact absurd hplain.symm Bool.false_ne_true
      · rw [mem_answer_negatedTest_iff reachable online, if_pos hmark]
        exact ⟨hstored, hnone raw hraw⟩
    · rw [List.forall_mem_map]
      rintro raw hraw ⟨-, hmark⟩
      rw [mem_answer_negatedTest_iff reachable online, if_neg (Bool.eq_false_iff.1 hmark)]
      exact hnone raw hraw

/-- **Lists.** A test with a list selects what the tests with its items select together. Negated, it leaves what the
negated tests with the items leave one after the other. -/
theorem selectedBy_items (reachable : store.Reachable) (online : store.Online) {items : List String}
    (hne : items ≠ []) (hitems : ∀ item ∈ items, Literal.IsItem item.toList) (context : Context) (name : String)
    (op : Operator) :
    (∀ id, id ∈ store.selectedBy context name op (",".intercalate items)
        ↔ ∃ item ∈ items, id ∈ store.selectedBy context name op item)
      ∧ store.leftBy context name op [",".intercalate items] = store.leftBy context name op items := by
  have hselected := mem_selectedBy_items online hne hitems context name op
  refine ⟨hselected, IdSet.ext_mem fun id => ?_⟩
  rw [mem_leftBy_iff reachable online, mem_leftBy_iff reachable online, List.forall_mem_singleton, hselected]
  simp only [not_exists, not_and]

/-- An item that is no number selects nothing, and a negated test with it is not answered by the complement. -/
theorem selectedBy_items_mistyped :
    (ofTwo.Reachable ∧ ofTwo.Online ∧ ∀ item ∈ ["3", "five"], Literal.IsItem item.toList)
      ∧ (∀ id, id ∈ ofTwo.selectedBy (.anonymousAt .epoch) "id" .le (",".intercalate ["3", "five"])
          ↔ ∃ item ∈ ["3", "five"], id ∈ ofTwo.selectedBy (.anonymousAt .epoch) "id" .le item)
      ∧ ofTwo.leftBy (.anonymousAt .epoch) "id" .le [",".intercalate ["3", "five"]]
          = ofTwo.leftBy (.anonymousAt .epoch) "id" .le ["3", "five"]
      ∧ (ofTwo.leftBy (.anonymousAt .epoch) "id" .le ["3", "five"]).toList = [4] := by
  have hitems : ∀ item ∈ ["3", "five"], Literal.IsItem item.toList := by decide +kernel
  have reachable : ofTwo.Reachable := reachable_ofRecords _ _ _ _
  have online : ofTwo.Online := online_ofRecords _ _ _ _
  obtain ⟨hselected, hleft⟩ := selectedBy_items reachable online (List.cons_ne_nil "3" ["five"]) hitems
    (.anonymousAt .epoch) "id" .le
  exact ⟨⟨reachable, online, hitems⟩, hselected, hleft, by decide +kernel⟩

end Store

end FeatureQuery
