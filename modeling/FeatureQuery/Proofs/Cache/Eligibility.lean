import FeatureQuery.Proofs.Literal.Relative
import FeatureQuery.Proofs.Page

/-!
# Pages that may be shared

A page may be shared if it is the same for everybody at all times. Queries with a test about the caller or
with a relative literal are not cacheable, except where a bound of a range stands in quotes: such a bound may
be relative and yet not be seen. Two contexts then have the same pages exactly if the query means the same in
both, and it does if the bounds in quotes denote the same.

## Main results

* `samePages_iff_sameMeaning`: two contexts have the same pages of a query exactly if it means the same in
  both.
* `Query.sameMeaning_of_quotedBoundsAgree`: a cacheable query means the same in two contexts if its quoted
  bounds do.
* `isCacheable_samePages`: both for the cacheable queries, with what their values denote.
* `not_samePages_of_quoted_bound`: a cacheable query that has different pages on different days.
-/

namespace FeatureQuery

/-- Without a cache, a query has the same pages in two contexts, whatever is stored and permitted, however the
engine is set up, and whatever else the request asks for, as long as it shows unlisted features. -/
def SamePages (query : String) (context other : Context) : Prop :=
  ∀ (engine : Engine) (now : Nat) (request : Request), engine.store.Reachable → engine.store.Online →
    engine.cache = none → request.query = query → request.visibility.showUnlisted = true →
    (engine.run now request context).value.1 = (engine.run now request other).value.1

/-- A query is true of the same features in two contexts. -/
def Query.SameMeaning (query : Query) (context other : Context) : Prop :=
  ∀ (setting : Setting) (feature : Feature), setting.store.Reachable → setting.store.Online →
    feature ∈ setting.store.features →
    (query.Holds { setting with context := context } feature
      ↔ query.Holds { setting with context := other } feature)

/-- The bounds in quotes of all ranges in a query denote the same in two contexts. -/
def Query.QuotedBoundsAgree (query : Query) (context other : Context) : Prop :=
  ∀ term ∈ query.terms, ∀ name op raw, term.test = .field name op raw →
    Literal.QuotedBoundsAgree context other raw.toList

/-! ### Pages and meanings -/

/-- Where unlisted features are shown anyway, the caller makes no difference to what may be shown. -/
theorem Engine.shows_congr_context {engine : Engine} {request : Request}
    (hunlisted : request.visibility.showUnlisted = true) (context other : Context) (feature : Feature) :
    engine.Shows request context feature ↔ engine.Shows request other feature := by
  constructor
  · intro h
    exact ⟨h.deleted, fun _ => Or.inl hunlisted, h.enterprise⟩
  · intro h
    exact ⟨h.deleted, fun _ => Or.inl hunlisted, h.enterprise⟩

/-- **Pages follow meanings.** Two contexts have the same pages of a query exactly if it means the same in
both. -/
theorem samePages_iff_sameMeaning (query : String) (context other : Context) :
    SamePages query context other ↔ (Query.read query).SameMeaning context other := by
  constructor
  · intro hpages setting feature reachable online hmem
    let engine : Engine := ⟨setting.store, setting.permissions,
      { Config.standard with recentReviewDays := setting.recentDays }, none⟩
    let request : Request := ⟨query, none, ⟨true, true, true⟩, .all, true⟩
    have hshows : ∀ context, engine.Shows request context feature := by
      intro context
      exact ⟨fun _ => rfl, fun _ => Or.inl rfl, fun _ => rfl⟩
    have hrun := hpages engine 0 request reachable online rfl rfl rfl
    have hshown := engine.shownIds_eq_of_run_eq reachable.consistent online rfl rfl rfl hrun
    have hcontext := engine.mem_shownIds_iff_holds reachable.consistent online hmem (hshows context)
    have hother := engine.mem_shownIds_iff_holds reachable.consistent online hmem (hshows other)
    rw [hshown] at hcontext
    exact hcontext.symm.trans hother
  · intro hmeaning engine now request reachable online hcache hquery hunlisted
    have hshown : engine.shownIds request context = engine.shownIds request other := by
      refine IdSet.ext_mem fun id => ?_
      rw [engine.mem_shownIds_iff reachable.consistent online,
        engine.mem_shownIds_iff reachable.consistent online, hquery]
      refine exists_congr fun feature => and_congr_right fun hmem => and_congr_right fun _ => ?_
      exact and_congr (Engine.shows_congr_context hunlisted context other feature)
        (hmeaning (engine.settingOf context) feature reachable online hmem)
    rw [engine.value_run online hcache, engine.value_run online hcache, hshown]

/-! ### Cacheable queries -/

/-- No term of a cacheable query is about the caller or has a piece that is relative. -/
theorem Term.not_contextual_of_isCacheable {query : String} (h : isCacheable query true = true)
    {term : Term} (hterm : term ∈ (Query.read query).terms) :
    CallerField.ofTest? term.test = none
      ∧ ∀ name op raw, term.test = .field name op raw → hasRelative raw = false := by
  have hnot := (isCacheable_iff.1 h).2 term hterm
  rw [isContextual, Bool.or_eq_false_iff] at hnot
  refine ⟨Option.isSome_eq_false_iff.1 hnot.1 |> Option.isNone_iff_eq_none.1, ?_⟩
  intro name op raw htest
  have hraw := hnot.2
  rw [htest] at hraw
  exact hraw

/-- A term that is not about the caller and whose value denotes the same in two contexts is true of the same
features in both. -/
theorem Term.holds_congr_context {setting : Setting} {feature : Feature} {term : Term}
    {context other : Context} (hcaller : CallerField.ofTest? term.test = none)
    (hraw : ∀ name op raw, term.test = .field name op raw →
      Literal.ofRaw context raw.toList = Literal.ofRaw other raw.toList) :
    term.Holds { setting with context := context } feature
      ↔ term.Holds { setting with context := other } feature := by
  rw [Holds, Holds, Test.Holds.eq_def, Test.Holds.eq_def, hcaller]
  cases htest : term.test with
  | text content => rfl
  | field name op raw =>
      have hliterals : ∀ field, Store.literalsFor context field raw = Store.literalsFor other field raw :=
        fun field => by rw [Store.literalsFor, Store.literalsFor, hraw name op raw htest]
      simp only [Field.Holds, hliterals]

/-- A cacheable query means the same in two contexts if its quoted bounds do. -/
theorem Query.sameMeaning_of_quotedBoundsAgree {query : String} (h : isCacheable query true = true)
    {context other : Context} (hagree : (Query.read query).QuotedBoundsAgree context other) :
    (Query.read query).SameMeaning context other := by
  intro setting feature _ _ _
  have hterm : ∀ term ∈ (Query.read query).terms,
      (term.Holds { setting with context := context } feature
        ↔ term.Holds { setting with context := other } feature) := by
    intro term hterm
    obtain ⟨hcaller, hrelative⟩ := Term.not_contextual_of_isCacheable h hterm
    refine Term.holds_congr_context hcaller fun name op raw htest => ?_
    exact (Literal.ofRaw_eq_iff (hrelative name op raw htest) context other).2
      (hagree term hterm name op raw htest)
  refine or_congr_right (exists_congr fun clause => and_congr_right fun hclause => ?_)
  refine forall₂_congr fun term hmem => hterm term ?_
  exact List.mem_flatten.2 ⟨clause, hclause, hmem⟩

/-- **Shared pages.** A cacheable query has the same pages in two contexts exactly if it means the same in both.
It does if all bounds in quotes denote the same; and these are all that can differ, since a value in it denotes
the same in both contexts exactly if its quoted bounds do. -/
theorem isCacheable_samePages {query : String} (h : isCacheable query true = true)
    (context other : Context) :
    (SamePages query context other ↔ (Query.read query).SameMeaning context other)
      ∧ ((Query.read query).QuotedBoundsAgree context other → SamePages query context other)
      ∧ ∀ term ∈ (Query.read query).terms, ∀ name op raw, term.test = .field name op raw →
        (Literal.ofRaw context raw.toList = Literal.ofRaw other raw.toList
          ↔ Literal.QuotedBoundsAgree context other raw.toList) := by
  refine ⟨samePages_iff_sameMeaning query context other, ?_, ?_⟩
  · intro hagree
    exact (samePages_iff_sameMeaning query context other).2
      (Query.sameMeaning_of_quotedBoundsAgree h hagree)
  · intro term hterm name op raw htest
    exact Literal.ofRaw_eq_iff ((Term.not_contextual_of_isCacheable h hterm).2 name op raw htest) context
      other

/-- Dates without quotes are cacheable, and the pages are the same for two callers if the query means the same
to both. -/
theorem isCacheable_samePages_dates :
    (SamePages "created.when=1970-01-01..1970-12-31" (.anonymousAt .epoch) ⟨.epoch, 101, some ⟨"ann"⟩⟩
        ↔ (Query.read "created.when=1970-01-01..1970-12-31").SameMeaning (.anonymousAt .epoch)
            ⟨.epoch, 101, some ⟨"ann"⟩⟩)
      ∧ ((Query.read "created.when=1970-01-01..1970-12-31").QuotedBoundsAgree (.anonymousAt .epoch)
            ⟨.epoch, 101, some ⟨"ann"⟩⟩ →
          SamePages "created.when=1970-01-01..1970-12-31" (.anonymousAt .epoch)
            ⟨.epoch, 101, some ⟨"ann"⟩⟩)
      ∧ ∀ term ∈ (Query.read "created.when=1970-01-01..1970-12-31").terms, ∀ name op raw,
          term.test = .field name op raw →
            (Literal.ofRaw (.anonymousAt .epoch) raw.toList
                = Literal.ofRaw ⟨.epoch, 101, some ⟨"ann"⟩⟩ raw.toList
              ↔ Literal.QuotedBoundsAgree (.anonymousAt .epoch) ⟨.epoch, 101, some ⟨"ann"⟩⟩
                raw.toList) :=
  isCacheable_samePages (by decide +kernel) (.anonymousAt .epoch) ⟨.epoch, 101, some ⟨"ann"⟩⟩

/-- The start of 11 January 1970. -/
def Time.Instant.tenDaysIn : Time.Instant :=
  { Time.Instant.epoch with day := 10, day_mem := by decide }

/-- A query with a relative bound in quotes is cacheable, and the page of a feature from 1 January is not the
same ten days later. -/
theorem not_samePages_of_quoted_bound :
    isCacheable "created.when=\"now-1d\"..\"2030-01-01\"" true = true
      ∧ ¬ SamePages "created.when=\"now-1d\"..\"2030-01-01\"" (.anonymousAt .epoch)
          (.anonymousAt .tenDaysIn) := by
  refine ⟨by decide +kernel, ?_⟩
  intro hpages
  have hrun := hpages (.ofFeatures [.ownedBy "ann" 1 false]) 0
    (.ofQuery "created.when=\"now-1d\"..\"2030-01-01\"") (Store.reachable_ofRecords _ _ _ _)
    (Store.online_ofRecords _ _ _ _) rfl rfl rfl
  exact absurd (congrArg (fun result => result.toOption.map Page.ids) hrun) (by decide +kernel)

end FeatureQuery
