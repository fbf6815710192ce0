import FeatureQuery.Proofs.Answers.Field

/-!
# Answers to tests about the caller

The answer to a test about the caller is the set of ids that have to do with that person: through an address on
the feature with the id, a star, or a gate. Stars and gates count also where no feature has their id. For an
anonymous caller, and for one who has no approvals to give, nothing is selected.

## Main results

* `CallerField.select_setStars_iff`, `CallerField.select_pendingGates_iff`,
  `CallerField.select_decidedGates_iff`: what the queries about a person select.
* `CallerField.exists_answer_resolveFor`: what the answer to a test about a person has.
* `CallerField.rightAbout_resolve`: the answer to a test about the caller is right.
-/

namespace FeatureQuery

/-! ### What the queries select -/

/-- A comparison with the time at which a gate was decided needs the gate to be decided. -/
theorem Gate.accepts_resolvedOn_iff (gate : Gate) {op : Operator} {t : Time.Instant} :
    (Filter.compare .resolvedOn op (.instant t)).accepts (Record.values gate .resolvedOn) = true
      ↔ ∃ resolved, gate.resolvedOn = some resolved ∧ op.accepts (resolved.order t) = true := by
  rw [Filter.accepts_compare_iff, show Record.values gate .resolvedOn
    = Record.optionalValue .instant gate.resolvedOn from rfl]
  cases gate.resolvedOn with
  | none => simp [Record.optionalValue]
  | some resolved => simp [Record.optionalValue, Value.order]

namespace CallerField

variable {store : Store} {id : Int64}

/-- A lookup of one valid query about the caller answers with what it selects. -/
theorem exists_answer_ask (online : store.Online) (field : CallerField) {query : StoreQuery}
    (valid : query.Valid) :
    ∃ ids, (field.ask store query).answer = ⟨ids, false⟩ ∧ ∀ id, id ∈ ids ↔ id ∈ store.select query := by
  obtain ⟨ids, hlookup, hids⟩ := online.exists_lookup ⟨[query], false⟩ field.label
    (List.forall_mem_singleton.2 valid)
  refine ⟨ids, ?_, ?_⟩
  · rw [ask, Lookup.ofStore, hlookup]
    rfl
  · intro id
    rw [hids]
    simp

/-- Features are selected by an address in a property of texts. -/
theorem select_byAddress_iff {p : Property} (hkind : p.kind = .text) (person : Identity) :
    id ∈ store.select (byAddress p person)
      ↔ ∃ feature ∈ store.features, feature.id = id ∧ .text person.email ∈ Record.values feature p := by
  have hselect : store.select (byAddress p person)
      = Record.select store.features ⟨.feature, [.compare p .eq (.text person.email)], none⟩ := rfl
  rw [hselect, Record.mem_select_of_unordered rfl]
  refine exists_congr fun feature => and_congr_right fun _ => ?_
  have hpasses : Record.passes feature [.compare p .eq (.text person.email)] = true
      ↔ .text person.email ∈ Record.values feature p := by
    rw [Record.passes, List.all_cons, List.all_nil, Bool.and_true]
    exact Filter.accepts_eq_text_iff fun v hv =>
      ((LawfulRecord.describes feature p).kind_of_mem v hv).trans hkind
  rw [hpasses]
  exact and_comm

/-- Stars are selected that a person has set. -/
theorem select_setStars_iff (person : Identity) :
    id ∈ store.select (setStars person)
      ↔ ∃ star ∈ store.stars, star.featureId = id ∧ star.email = person.email ∧ star.starred = true := by
  have hselect : store.select (setStars person) = Record.select store.stars (setStars person) := rfl
  rw [hselect, Record.mem_select_of_unordered rfl]
  refine exists_congr fun star => and_congr_right fun _ => ?_
  have hemail : (Filter.compare .starEmail .eq (.text person.email)).accepts [.text star.email] = true
      ↔ star.email = person.email := by
    rw [Filter.accepts_eq_text_iff fun v hv => by rw [List.mem_singleton.1 hv]; rfl,
      List.mem_singleton, Value.text.injEq]
    exact eq_comm
  have hset : (Filter.compare .starred .eq (.bool true)).accepts [.bool star.starred] = true
      ↔ star.starred = true := by
    cases star.starred <;> decide
  have hpasses : Record.passes star (setStars person).filters = true
      ↔ star.email = person.email ∧ star.starred = true := by
    rw [← hemail, ← hset, ← Bool.and_eq_true]
    exact Iff.of_eq (congrArg (· = true) (congrArg _ (Bool.and_true _)))
  rw [hpasses]
  exact and_comm

/-- Gates are selected that pass some filters. -/
theorem select_gates_iff {filters : List Filter} :
    id ∈ store.select ⟨.gate, filters, none⟩
      ↔ ∃ gate ∈ store.gates, gate.featureId = id ∧ Record.passes gate filters = true := by
  have hselect : store.select ⟨.gate, filters, none⟩
      = Record.select store.gates ⟨.gate, filters, none⟩ := rfl
  rw [hselect, Record.mem_select_of_unordered rfl]
  exact exists_congr fun gate => and_congr_right fun _ => and_comm

/-- Gates of some types are selected that wait for a reviewer. -/
theorem select_pendingGates_iff (types : IdSet) :
    id ∈ store.select (pendingGates types)
      ↔ ∃ gate ∈ store.gates, gate.featureId = id
          ∧ gate.gateType ∈ types ∧ gate.state ∈ Gate.pendingStates := by
  have hquery : pendingGates types = ⟨.gate, [.oneOf .gateType (types.toList.map .int),
      .oneOf .gateState (Gate.pendingStates.map .int)], none⟩ := rfl
  rw [hquery, select_gates_iff]
  refine exists_congr fun gate => and_congr_right fun _ => and_congr_right fun _ => ?_
  rw [IdSet.mem_def, ← Filter.accepts_oneOf_int_iff .gateType types.toList,
    ← Filter.accepts_oneOf_int_iff .gateState Gate.pendingStates,
    ← Bool.and_eq_true]
  exact Iff.of_eq (congrArg (· = true) (congrArg _ (Bool.and_true _)))

/-- Gates are selected that were decided between two instants. -/
theorem select_decidedGates_iff (since till : Time.Instant) :
    id ∈ store.select (decidedGates since till)
      ↔ ∃ gate ∈ store.gates, gate.featureId = id ∧ gate.state ∈ Gate.finalStates ∧
          ∃ resolved, gate.resolvedOn = some resolved ∧ (since.order resolved).isLE = true ∧
            (resolved.order till).isLE = true := by
  have hquery : decidedGates since till = ⟨.gate, [.oneOf .gateState (Gate.finalStates.map .int),
      .compare .resolvedOn .ge (.instant since), .compare .resolvedOn .le (.instant till)], none⟩ := rfl
  rw [hquery, select_gates_iff]
  refine exists_congr fun gate => and_congr_right fun _ => and_congr_right fun _ => ?_
  have hge : ∀ resolved : Time.Instant, Operator.ge.accepts (resolved.order since) = true
      ↔ (since.order resolved).isLE = true := by
    intro resolved
    rw [← Time.Instant.order_swap since resolved]
    cases since.order resolved <;> decide
  have hle : ∀ resolved : Time.Instant, Operator.le.accepts (resolved.order till) = true
      ↔ (resolved.order till).isLE = true := by
    intro resolved
    cases resolved.order till <;> decide
  have hpasses : Record.passes gate [.oneOf .gateState (Gate.finalStates.map .int),
      .compare .resolvedOn .ge (.instant since), .compare .resolvedOn .le (.instant till)] = true
      ↔ (Filter.oneOf .gateState (Gate.finalStates.map .int)).accepts [.int gate.state] = true
        ∧ (Filter.compare .resolvedOn .ge (.instant since)).accepts
            (Record.values gate .resolvedOn) = true
        ∧ (Filter.compare .resolvedOn .le (.instant till)).accepts
            (Record.values gate .resolvedOn) = true := by
    rw [← Bool.and_eq_true, ← Bool.and_eq_true]
    exact Iff.of_eq (congrArg (· = true) (congrArg _ (congrArg _ (Bool.and_true _))))
  rw [hpasses, Filter.accepts_oneOf_int_iff, gate.accepts_resolvedOn_iff, gate.accepts_resolvedOn_iff]
  refine and_congr_right fun _ => ?_
  constructor
  · rintro ⟨⟨resolved, hresolved, hsince⟩, other, hother, htill⟩
    obtain rfl : resolved = other := Option.some.inj (hresolved.symm.trans hother)
    exact ⟨resolved, hresolved, (hge resolved).1 hsince, (hle resolved).1 htill⟩
  · rintro ⟨resolved, hresolved, hsince, htill⟩
    exact ⟨⟨resolved, hresolved, (hge resolved).2 hsince⟩, resolved, hresolved, (hle resolved).2 htill⟩

/-! ### Answers -/

/-- An id has to do with a person in the way that a field about the caller asks for. Of gates that wait for a
reviewer, those count whose types the person approves. -/
def Selects (store : Store) (approves : Int64 → Prop) (days : Int64) (now : Time.Instant) (person : Identity)
    (id : Int64) : CallerField → Prop
  | owner => ∃ feature ∈ store.features, feature.id = id ∧ person.email ∈ feature.ownerEmails
  | editor => ∃ feature ∈ store.features, feature.id = id ∧ person.email ∈ feature.editorEmails
  | cc => ∃ feature ∈ store.features, feature.id = id ∧ person.email ∈ feature.ccEmails
  | creator => ∃ feature ∈ store.features, feature.id = id ∧ feature.creatorEmail = some person.email
  | starredBy => ∃ star ∈ store.stars, star.featureId = id ∧ star.email = person.email ∧ star.starred = true
  | pendingApprovalBy =>
    ∃ gate ∈ store.gates, gate.featureId = id ∧ approves gate.gateType ∧ gate.state ∈ Gate.pendingStates
  | recentlyReviewed =>
    ∃ since, now.addDays? (-days.toInt) = some since ∧
      ∃ gate ∈ store.gates, gate.featureId = id ∧ gate.state ∈ Gate.finalStates ∧
        ∃ resolved, gate.resolvedOn = some resolved ∧ (since.order resolved).isLE = true ∧
          (resolved.order now).isLE = true

/-- The answer to a test about a person has the ids that have to do with the person. -/
theorem exists_answer_resolveFor (online : store.Online) (permissions : Permissions) (days : Int64)
    (now : Time.Instant) (person : Identity) (field : CallerField) :
    ∃ ids, (field.resolveFor store permissions days now person).value.answer = ⟨ids, false⟩
      ∧ ∀ id, id ∈ ids ↔ field.Selects store (· ∈ permissions.gateTypes person) days now person id := by
  have hask : ∀ {query : StoreQuery} {P : Int64 → Prop}, query.Valid → (∀ id, id ∈ store.select query ↔ P id) →
      ∃ ids, (field.ask store query).answer = ⟨ids, false⟩ ∧ ∀ id, id ∈ ids ↔ P id := by
    intro query P valid hselect
    obtain ⟨ids, hanswer, hids⟩ := field.exists_answer_ask online valid
    exact ⟨ids, hanswer, fun id => (hids id).trans (hselect id)⟩
  have haddress : ∀ (p : Property) (texts : Feature → List String), p.collection = .feature → p.kind = .text →
      (∀ feature, Record.values feature p = Record.textValues (texts feature)) →
      ∃ ids, (field.ask store (byAddress p person)).answer = ⟨ids, false⟩
        ∧ ∀ id, id ∈ ids ↔ ∃ feature ∈ store.features, feature.id = id ∧ person.email ∈ texts feature := by
    intro p texts hcollection hkind hvalues
    refine hask ((StoreQuery.valid_all .feature).filter hcollection) fun id => ?_
    rw [select_byAddress_iff hkind]
    simp [hvalues, Record.textValues]
  cases field with
  | owner => exact haddress .ownerEmails (·.ownerEmails) rfl rfl fun _ => rfl
  | editor => exact haddress .editorEmails (·.editorEmails) rfl rfl fun _ => rfl
  | cc => exact haddress .ccEmails (·.ccEmails) rfl rfl fun _ => rfl
  | creator =>
      obtain ⟨ids, hanswer, hids⟩ := haddress .creatorEmail (·.creatorEmail.toList) rfl rfl fun feature => by
        rw [show Record.values feature .creatorEmail = Record.optionalValue .text feature.creatorEmail from rfl]
        cases feature.creatorEmail <;> rfl
      refine ⟨ids, hanswer, fun id => (hids id).trans ?_⟩
      simp only [Option.mem_toList, Selects]
  | starredBy => exact hask (((StoreQuery.valid_all .star).filter rfl).filter rfl) fun _ => select_setStars_iff person
  | pendingApprovalBy =>
      rw [resolveFor]
      by_cases hempty : (permissions.gateTypes person).isEmpty = true
      · rw [if_pos hempty]
        refine ⟨.empty, rfl, fun id => iff_of_false (IdSet.not_mem_empty id) ?_⟩
        rintro ⟨gate, -, -, htype, -⟩
        rw [IdSet.isEmpty, List.isEmpty_iff] at hempty
        rw [IdSet.mem_def, hempty] at htype
        exact List.not_mem_nil htype
      · rw [if_neg hempty]
        exact hask (((StoreQuery.valid_all .gate).filter rfl).filter rfl) fun _ => select_pendingGates_iff _
  | recentlyReviewed =>
      rw [resolveFor_recentlyReviewed]
      cases hsince : now.addDays? (-days.toInt) with
      | none =>
          refine ⟨.empty, rfl, fun id => iff_of_false (IdSet.not_mem_empty id) ?_⟩
          rintro ⟨since, hsome, -⟩
          exact absurd (hsince.symm.trans hsome) (by simp)
      | some since =>
          refine hask ((((StoreQuery.valid_all .gate).filter rfl).filter rfl).filter rfl) fun id => ?_
          rw [select_decidedGates_iff, Selects, hsince]
          simp

end CallerField

/-! ### Answers that are right -/

section Callers

variable {setting : Setting} {feature : Feature}

/-- A feature has to do with a person exactly if its id does. -/
theorem CallerField.selects_iff_holdsFor (consistent : setting.store.Consistent)
    (hmem : feature ∈ setting.store.features) (person : Identity) (field : CallerField) :
    field.Selects setting.store (· ∈ setting.permissions.gateTypes person) setting.recentDays setting.context.now
        person feature.id
      ↔ field.HoldsFor setting person feature := by
  have hfeature : ∀ P : Feature → Prop,
      (∃ other ∈ setting.store.features, other.id = feature.id ∧ P other) ↔ P feature := by
    intro P
    constructor
    · rintro ⟨other, hother, hid, hP⟩
      rwa [consistent.eq_of_id_eq hmem hother hid.symm]
    · exact fun hP => ⟨feature, hmem, rfl, hP⟩
  cases field with
  | owner => exact hfeature fun other => person.email ∈ other.ownerEmails
  | editor => exact hfeature fun other => person.email ∈ other.editorEmails
  | cc => exact hfeature fun other => person.email ∈ other.ccEmails
  | creator => exact hfeature fun other => other.creatorEmail = some person.email
  | starredBy => simp only [Selects, HoldsFor, Store.starsOf, List.mem_filter, decide_eq_true_eq, and_assoc]
  | pendingApprovalBy => simp only [Selects, HoldsFor, Store.gatesOf, List.mem_filter, decide_eq_true_eq, and_assoc]
  | recentlyReviewed => simp only [Selects, HoldsFor, Store.gatesOf, List.mem_filter, decide_eq_true_eq, and_assoc]

/-- The answer to a test about the caller is right. -/
theorem CallerField.rightAbout_resolve (consistent : setting.store.Consistent)
    (online : setting.store.Online) (hmem : feature ∈ setting.store.features) (field : CallerField)
    (negated : Bool) :
    (field.resolve setting.store setting.permissions setting.recentDays
        setting.context).value.answer.RightAbout negated feature (field.Holds setting feature) := by
  rw [resolve, Holds]
  cases setting.context.caller with
  | none =>
      refine Resolved.rightAbout_empty fun h => ?_
      obtain ⟨person, hperson, -⟩ := h
      exact absurd hperson (by simp)
  | some person =>
      simp only [Option.some.injEq, exists_eq_left']
      obtain ⟨ids, hanswer, hids⟩ := exists_answer_resolveFor online setting.permissions setting.recentDays
        setting.context.now person field
      rw [hanswer]
      exact Resolved.rightAbout_plain ((hids feature.id).trans (selects_iff_holdsFor consistent hmem person field))

end Callers

end FeatureQuery
