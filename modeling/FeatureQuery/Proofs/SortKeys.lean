import FeatureQuery.Proofs.Page

/-!
# Sorting by a key

A sort key looks at some of the records, each of which belongs to a feature and has values for the key. There
are three layers. A record is placed by the first of its values in the direction of the sort; records that
are placed by the same value stay in the order in which they were put in; and a feature stands where the
first of its records does. Together they sort the features by the first of all their values. Features with
the same one stand in the order of the first records that carry it, and features without a value follow in
ascending order.

## Main results

* `SortKey.ofName?_eq_some_iff`: a text names a key if it is the name up to the case of ASCII letters.
* `Carrier.isKey_of_find?`: the first of the sorted records of a feature is placed by the feature's key, and
  no earlier record carries it.
* `Carrier.ranksBefore_listing_iff`: the sorted records put features in the order of their keys.
* `Store.exists_select_orderQuery`: the order of a key lists the features of its sorted records.
* `Store.sort_by_key`: the members of a set are sorted by a key.
-/

namespace FeatureQuery

/-! ### The names of keys -/

/-- Lower case has no capital letters left. -/
theorem Text.lowerAscii_lowerAscii (cs : List Char) : lowerAscii (lowerAscii cs) = lowerAscii cs := by
  rw [lowerAscii, lowerAscii, List.map_map]
  refine List.map_congr_left fun c _ => ?_
  by_cases hascii : c.toNat < 128
  · exact forall_ascii (P := fun c => c.toLower.toLower = c.toLower) (by decide +kernel) hascii
  · have hsame : c.toLower = c :=
      dif_neg fun hcapital => hascii (Nat.lt_of_le_of_lt hcapital.2 (by decide))
    rw [Function.comp_apply, hsame, hsame]

/-- The names of fields are in lower case. -/
theorem Field.lowerAscii_spelling (field : Field) :
    Text.lowerAscii field.spelling.toList = field.spelling.toList := by
  cases field <;> simp [spelling, Text.lowerAscii]

/-- A text names a field exactly if in lower case it is the name of the field. -/
theorem Field.ofName?_eq_some_iff {name : String} {field : Field} :
    ofName? name = some field ↔ Text.lowerAscii name.toList = field.spelling.toList := by
  constructor
  · intro h
    have hspelled := List.find?_some h
    rw [beq_iff_eq, field.lowerAscii_spelling] at hspelled
    exact hspelled.symm
  · intro h
    have hname : ofName? name = ofName? field.spelling := by
      rw [ofName?, ofName?, h, field.lowerAscii_spelling]
    rw [hname, ofName?_spelling]

namespace SortKey

/-- The name of a key. -/
def spelling : SortKey → String
  | field f => f.spelling
  | requestedOn => "gate.requested_on"
  | reviewedOn => "gate.reviewed_on"

/-- The names of keys are in lower case. -/
theorem lowerAscii_spelling (key : SortKey) :
    Text.lowerAscii key.spelling.toList = key.spelling.toList := by
  cases key with
  | field f => exact f.lowerAscii_spelling
  | requestedOn => simp [spelling, Text.lowerAscii]
  | reviewedOn => simp [spelling, Text.lowerAscii]

/-- A key is read back from its name. -/
theorem ofName?_spelling (key : SortKey) : ofName? key.spelling = some key := by
  rw [ofName?, lowerAscii_spelling, String.ofList_toList]
  cases key with
  | field f =>
      have hfield : (Field.ofName? f.spelling).map field = some (field f) := by
        rw [f.ofName?_spelling]
        rfl
      rw [spelling]
      split
      · next heq => cases f <;> simp [Field.spelling] at heq
      · next heq => cases f <;> simp [Field.spelling] at heq
      · exact hfield
  | requestedOn => rfl
  | reviewedOn => rfl

/-- A text names a key exactly if in lower case it is the name of the key. -/
theorem ofName?_eq_some_iff {name : String} {key : SortKey} :
    ofName? name = some key ↔ Text.lowerAscii name.toList = key.spelling.toList := by
  constructor
  · intro h
    rw [ofName?] at h
    split at h
    · next heq =>
        obtain rfl := Option.some.inj h
        rw [← String.toList_ofList (l := Text.lowerAscii name.toList), heq]
        rfl
    · next heq =>
        obtain rfl := Option.some.inj h
        rw [← String.toList_ofList (l := Text.lowerAscii name.toList), heq]
        rfl
    · obtain ⟨f, hf, rfl⟩ := Option.map_eq_some_iff.1 h
      have hspelled := Field.ofName?_eq_some_iff.1 hf
      rwa [String.toList_ofList, Text.lowerAscii_lowerAscii] at hspelled
  · intro h
    have hname : ofName? name = ofName? key.spelling := by
      rw [ofName?, ofName?, h, key.lowerAscii_spelling]
    rw [hname, ofName?_spelling]

end SortKey

/-! ### Values in a direction -/

/-- A value comes before another one: it is smaller, or larger in descending order. -/
def Value.Precedes (descending : Bool) (v w : Value) : Prop :=
  v.order w = some (if descending then .gt else .lt)

section Values

variable {order : StoreOrder} {kind : ValueKind} (hfloat : kind ≠ .float) {v w u : Value}
  (hv : v.kind = kind) (hw : w.kind = kind)

include hfloat hv hw

/-- Values stand in place if they are the same or the first comes before the second. -/
theorem StoreOrder.not_follows_iff_precedes :
    (!order.follows v w) = true ↔ v = w ∨ v.Precedes order.descending w := by
  have hfloat' : v.kind ≠ .float := hv ▸ hfloat
  obtain ⟨o, ho, -⟩ := Value.order_of_kind_eq (hv.trans hw.symm) hfloat'
  rw [not_follows_iff ho, ← Value.order_eq_iff (hv.trans hw.symm) hfloat', Value.Precedes, ho]
  cases order.descending <;> cases o <;> decide

/-- Of two values only one comes before the other. -/
theorem Value.Precedes.asymm {descending : Bool} (h : v.Precedes descending w) :
    ¬ w.Precedes descending v := by
  obtain ⟨o, ho, hswap⟩ := order_of_kind_eq (hv.trans hw.symm) (hv ▸ hfloat)
  obtain rfl := Option.some.inj (ho.symm.trans h)
  rw [Precedes, hswap]
  cases descending <;> decide

/-- Of two different values one comes before the other. -/
theorem Value.precedes_or_precedes (hne : v ≠ w) (descending : Bool) :
    v.Precedes descending w ∨ w.Precedes descending v := by
  have hfloat' : v.kind ≠ .float := hv ▸ hfloat
  obtain ⟨o, ho, hswap⟩ := order_of_kind_eq (hv.trans hw.symm) hfloat'
  have hdiffer : o ≠ .eq := by
    rintro rfl
    exact hne ((order_eq_iff (hv.trans hw.symm) hfloat').1 ho)
  rw [Precedes, Precedes, ho, hswap]
  cases descending <;> cases o <;> simp_all

end Values

/-- The value that a record is placed by stands in place before all others. -/
theorem StoreOrder.not_follows_firstOf? {order : StoreOrder} {kind : ValueKind} (hfloat : kind ≠ .float)
    {values : List Value} (hkind : ∀ v ∈ values, v.kind = kind) {v : Value}
    (h : order.firstOf? values = some v) : ∀ w ∈ values, (!order.follows v w) = true := by
  cases values with
  | nil => exact fun w hw => absurd hw List.not_mem_nil
  | cons u rest =>
      induction rest generalizing u with
      | nil =>
          intro w hw
          obtain rfl := List.mem_singleton.1 hw
          obtain rfl := Option.some.inj h
          exact (not_follows_iff_precedes hfloat (hkind w hw) (hkind w hw)).2 (Or.inl rfl)
      | cons x rest ih =>
          have hku := hkind u List.mem_cons_self
          have hkx := hkind x (List.mem_cons_of_mem u List.mem_cons_self)
          -- The fold goes on with the one of the first two values that stands before the other.
          obtain ⟨y, hy, hstep, hyu, hyx⟩ : ∃ y, y.kind = kind ∧ order.firstOf? (y :: rest) = some v
              ∧ (!order.follows y u) = true ∧ (!order.follows y x) = true := by
            have hself : ∀ z : Value, z.kind = kind → (!order.follows z z) = true := fun z hz =>
              (not_follows_iff_precedes hfloat hz hz).2 (Or.inl rfl)
            rw [firstOf?, List.foldl_cons] at h
            by_cases hux : order.follows u x = true
            · rw [if_pos hux] at h
              have htotal := order.not_follows_total (hkx.trans hku.symm) (hkx ▸ hfloat)
              exact ⟨x, hkx, h, by simpa [hux] using htotal, hself x hkx⟩
            · rw [if_neg hux] at h
              exact ⟨u, hku, h, hself u hku, by simpa using hux⟩
          have hkindRest : ∀ w ∈ y :: rest, w.kind = kind := by
            intro w hw
            rcases List.mem_cons.1 hw with rfl | hw
            · exact hy
            · exact hkind w (List.mem_cons_of_mem u (List.mem_cons_of_mem x hw))
          have hrest := ih y hkindRest hstep
          have hv := hkindRest v (mem_of_firstOf? hstep)
          have hvy := hrest y List.mem_cons_self
          have htrans : ∀ z : Value, z.kind = kind → (!order.follows y z) = true →
              (!order.follows v z) = true := fun z hz =>
            order.not_follows_trans (hv.trans hy.symm) (hy.trans hz.symm) (hv ▸ hfloat) hvy
          intro w hw
          rcases List.mem_cons.1 hw with rfl | hw
          · exact htrans w hku hyu
          · rcases List.mem_cons.1 hw with rfl | hw
            · exact htrans w hkx hyx
            · exact hrest w (List.mem_cons_of_mem y hw)

/-! ### Records that carry values -/

/-- A record as a sort key sees it: the feature that it belongs to, and its values for the key. -/
structure Carrier where
  featureId : Int64
  values : List Value

namespace Carrier

variable (carriers : List Carrier)

/-- The values of a feature, on all its records. -/
def valuesOf (id : Int64) : List Value :=
  (carriers.filter fun carrier => carrier.featureId = id).flatMap (·.values)

/-- Where the first record of a feature stands that carries a value. -/
def placeOf (id : Int64) (v : Value) : Nat :=
  carriers.findIdx fun carrier => carrier.featureId == id && carrier.values.contains v

/-- A value is the key of a feature: the smallest of its values, or the largest in descending order. -/
structure IsKey (descending : Bool) (id : Int64) (v : Value) : Prop where
  mem : v ∈ valuesOf carriers id
  precedes : ∀ w ∈ valuesOf carriers id, w ≠ v → v.Precedes descending w

/-- One feature goes before another one. -/
inductive GoesBefore (descending : Bool) (a b : Int64) : Prop
  /-- It has a key and the other one has none. -/
  | keyed {v : Value} (key : IsKey carriers descending a v) (keyless : valuesOf carriers b = [])
  /-- Its key comes before that of the other one. -/
  | key {v w : Value} (key : IsKey carriers descending a v) (other : IsKey carriers descending b w)
    (precedes : v.Precedes descending w)
  /-- They have the same key, and a record with it was put in for the one before any for the other. -/
  | tie {v : Value} (key : IsKey carriers descending a v) (other : IsKey carriers descending b v)
    (earlier : placeOf carriers a v < placeOf carriers b v)
  /-- They have no keys and its id is smaller. -/
  | keyless (keyless : valuesOf carriers a = []) (other : valuesOf carriers b = []) (smaller : a < b)

/-! ### Sorted records -/

/-- A record with values, with the value that it is placed by and where it stands among the records. -/
structure Placed where
  key : Value
  featureId : Int64
  place : Nat

/-- The records with values. -/
def placed (order : StoreOrder) : List Placed :=
  carriers.zipIdx.filterMap fun (carrier, place) =>
    (order.firstOf? carrier.values).map fun key => ⟨key, carrier.featureId, place⟩

/-- The records with values, sorted. -/
def sorted (order : StoreOrder) : List Placed :=
  (placed carriers order).mergeSort fun x y => !order.follows x.key y.key

/-- The features of the sorted records. -/
def listing (order : StoreOrder) : List Int64 :=
  (sorted carriers order).map (·.featureId)

/-- One record goes before another one: it stands in place, and if it may stand either way round it was put
in earlier. -/
def Placed.Before (order : StoreOrder) (x y : Placed) : Prop :=
  (!order.follows x.key y.key) = true ∧ ((!order.follows y.key x.key) = true → x.place < y.place)

variable {carriers} {order : StoreOrder}

/-- Of two placed keys not both come before the other. -/
theorem Placed.Before.asymm {x y : Placed} (h : x.Before order y) : ¬ y.Before order x := by
  intro h'
  have hxy := h.2 h'.1
  have hyx := h'.2 h.1
  omega

/-- The values of an id are those of the records that belong to it. -/
theorem mem_valuesOf {id : Int64} {v : Value} :
    v ∈ valuesOf carriers id ↔ ∃ carrier ∈ carriers, carrier.featureId = id ∧ v ∈ carrier.values := by
  simp [valuesOf, and_assoc]

/-- Records of different features that carry a value stand in different places. -/
theorem eq_of_placeOf_eq {a b : Int64} {v : Value} (hv : v ∈ valuesOf carriers a)
    (h : placeOf carriers a v = placeOf carriers b v) : a = b := by
  obtain ⟨carrier, hcarrier, hid, hmem⟩ := mem_valuesOf.1 hv
  have hlt : placeOf carriers a v < carriers.length :=
    List.findIdx_lt_length_of_exists ⟨carrier, hcarrier, by simp [hid, hmem]⟩
  have ha := ((List.findIdx_eq hlt).1 rfl).1
  have hb := ((List.findIdx_eq hlt).1 h.symm).1
  rw [Bool.and_eq_true, beq_iff_eq] at ha hb
  exact ha.1.symm.trans hb.1

/-- A record is placed by the first of its values in the order, if it has one. -/
theorem mem_placed {x : Placed} :
    x ∈ placed carriers order ↔ ∃ carrier, carriers[x.place]? = some carrier
      ∧ carrier.featureId = x.featureId ∧ order.firstOf? carrier.values = some x.key := by
  rw [placed, List.mem_filterMap]
  constructor
  · rintro ⟨⟨carrier, place⟩, hmem, hx⟩
    obtain ⟨key, hkey, rfl⟩ := Option.map_eq_some_iff.1 hx
    exact ⟨carrier, List.mem_zipIdx_iff_getElem?.1 hmem, rfl, hkey⟩
  · rintro ⟨carrier, hplace, hid, hkey⟩
    refine ⟨(carrier, x.place), List.mem_zipIdx_iff_getElem?.2 hplace, ?_⟩
    simp [hkey, hid]

/-- Records are placed in the order in which they were put in. -/
theorem pairwise_placed (carriers : List Carrier) (order : StoreOrder) :
    (placed carriers order).Pairwise fun x y => x.place < y.place := by
  have hplaces : carriers.zipIdx.Pairwise fun x y => x.2 < y.2 := by
    rw [← List.pairwise_map, List.zipIdx_map_snd]
    exact List.pairwise_lt_range'
  rw [placed, List.pairwise_filterMap]
  refine hplaces.imp fun {x y} hlt x' hx' y' hy' => ?_
  obtain ⟨_, -, rfl⟩ := Option.map_eq_some_iff.1 hx'
  obtain ⟨_, -, rfl⟩ := Option.map_eq_some_iff.1 hy'
  exact hlt

/-- Sorting loses no placed key and adds none. -/
theorem mem_sorted {x : Placed} : x ∈ sorted carriers order ↔ x ∈ placed carriers order :=
  (List.mergeSort_perm _ _).mem_iff

section Uniform

variable {kind : ValueKind} (hfloat : kind ≠ .float)
  (hkind : ∀ carrier ∈ carriers, ∀ v ∈ carrier.values, v.kind = kind)

include hkind

/-- Values that records are placed by are of the kind of all values. -/
theorem kind_of_mem_placed {x : Placed} (hx : x ∈ placed carriers order) : x.key.kind = kind := by
  obtain ⟨carrier, hplace, -, hkey⟩ := mem_placed.1 hx
  exact hkind carrier (List.mem_of_getElem? hplace) x.key (StoreOrder.mem_of_firstOf? hkey)

/-- The values of a feature are of the kind of all values. -/
theorem kind_of_mem_valuesOf {id : Int64} {v : Value} (hv : v ∈ valuesOf carriers id) :
    v.kind = kind := by
  obtain ⟨carrier, hcarrier, -, hmem⟩ := mem_valuesOf.1 hv
  exact hkind carrier hcarrier v hmem

include hfloat

/-- **Sorting.** Of the sorted records an earlier one goes before a later one. -/
theorem pairwise_sorted : (sorted carriers order).Pairwise (Placed.Before order) := by
  refine stable_mergeSort_of_mem (fun x : Placed => x.key.kind = kind)
    (fun x y z hx hy hz => ?_) (fun x y hx hy => ?_) (fun x => kind_of_mem_placed hkind)
    (pairwise_placed carriers order)
  · exact order.not_follows_trans (hx.trans hy.symm) (hy.trans hz.symm) (hx ▸ hfloat)
  · exact order.not_follows_total (hx.trans hy.symm) (hx ▸ hfloat)

/-- The first of the sorted records of a feature goes before all others. -/
theorem before_of_find? {id : Int64} {x : Placed}
    (h : (sorted carriers order).find? (fun z => z.featureId == id) = some x) :
    x ∈ placed carriers order ∧ x.featureId = id
      ∧ ∀ y ∈ placed carriers order, y.featureId = id → y = x ∨ x.Before order y := by
  obtain ⟨hid, earlier, later, hsplit, hnot⟩ := List.find?_eq_some_iff_append.1 h
  have hsorted : (sorted carriers order).Pairwise (Placed.Before order) := pairwise_sorted hfloat hkind
  refine ⟨mem_sorted.1 (List.mem_of_find?_eq_some h), by simpa using hid, fun y hy hyid => ?_⟩
  rw [hsplit] at hsorted
  have hy := mem_sorted.2 hy
  rw [hsplit, List.mem_append, List.mem_cons] at hy
  rcases hy with hy | rfl | hy
  · exact absurd (hnot y hy) (by simp [hyid])
  · exact Or.inl rfl
  · exact Or.inr ((List.pairwise_cons.1 (List.pairwise_append.1 hsorted).2.1).1 y hy)

/-- A record with a value is placed, and the value that it is placed by stands in place before that one. -/
theorem exists_placed {place : Nat} {carrier : Carrier} (hplace : carriers[place]? = some carrier)
    {v : Value} (hv : v ∈ carrier.values) (order : StoreOrder) :
    ∃ x ∈ placed carriers order, x.featureId = carrier.featureId ∧ x.place = place
      ∧ (!order.follows x.key v) = true := by
  obtain ⟨key, hkey⟩ : ∃ key, order.firstOf? carrier.values = some key := by
    cases hvalues : carrier.values with
    | nil => exact absurd (hvalues ▸ hv) List.not_mem_nil
    | cons w rest => exact ⟨_, rfl⟩
  exact ⟨⟨key, carrier.featureId, place⟩, mem_placed.2 ⟨carrier, hplace, rfl, hkey⟩, rfl, rfl,
    StoreOrder.not_follows_firstOf? hfloat (hkind carrier (List.mem_of_getElem? hplace)) hkey v hv⟩

/-- **Keys.** The first of the sorted records of a feature is placed by the key of the feature, and it is the
first record that carries it. -/
theorem isKey_of_find? {id : Int64} {x : Placed}
    (h : (sorted carriers order).find? (fun z => z.featureId == id) = some x) :
    IsKey carriers order.descending id x.key ∧ x.place = placeOf carriers id x.key := by
  obtain ⟨hx, hid, hbefore⟩ := before_of_find? hfloat hkind h
  have hxkind := kind_of_mem_placed hkind hx
  obtain ⟨carrier, hplace, hcarrier, hfirst⟩ := mem_placed.1 hx
  have hmem := StoreOrder.mem_of_firstOf? hfirst
  -- No value of the feature comes before the key, and the key is not carried by an earlier record.
  have hall : ∀ (place : Nat) (other : Carrier), carriers[place]? = some other → other.featureId = id →
      ∀ v ∈ other.values, (!order.follows x.key v) = true ∧ (v = x.key → x.place ≤ place) := by
    intro place other hother hotherId v hv
    obtain ⟨y, hy, hyid, hyplace, hyv⟩ := exists_placed hfloat hkind hother hv order
    rcases hbefore y hy (hyid.trans hotherId) with rfl | ⟨hxy, htie⟩
    · exact ⟨hyv, fun _ => Nat.le_of_eq hyplace⟩
    · have hykind := kind_of_mem_placed hkind hy
      have hvkind := hkind other (List.mem_of_getElem? hother) v hv
      refine ⟨order.not_follows_trans (hxkind.trans hykind.symm) (hykind.trans hvkind.symm)
        (hxkind ▸ hfloat) hxy hyv, fun heq => ?_⟩
      have hlt := htie (heq ▸ hyv)
      omega
  constructor
  · refine ⟨mem_valuesOf.2 ⟨carrier, List.mem_of_getElem? hplace, hcarrier.trans hid, hmem⟩, ?_⟩
    intro w hw hne
    obtain ⟨other, hother, hotherId, hwother⟩ := mem_valuesOf.1 hw
    obtain ⟨place, hotherPlace⟩ := List.getElem?_of_mem hother
    have hle := (hall place other hotherPlace hotherId w hwother).1
    rw [StoreOrder.not_follows_iff_precedes hfloat hxkind (hkind other hother w hwother)] at hle
    exact hle.resolve_left (Ne.symm hne)
  · obtain ⟨hlt, hget⟩ := List.getElem?_eq_some_iff.1 hplace
    refine ((List.findIdx_eq hlt).2 ⟨?_, fun place hearlier => ?_⟩).symm
    · simp [hget, hcarrier, hid, hmem]
    · rw [Bool.eq_false_iff]
      intro hcarries
      rw [Bool.and_eq_true, beq_iff_eq, List.contains_iff_mem] at hcarries
      have hle := (hall place _ (List.getElem?_eq_getElem _) hcarries.1 x.key hcarries.2).2 rfl
      omega

/-- A feature has one key only. -/
theorem IsKey.unique {descending : Bool} {id : Int64} {v w : Value}
    (hv : IsKey carriers descending id v) (hw : IsKey carriers descending id w) : v = w := by
  by_contra hne
  exact (hv.precedes w hw.mem (Ne.symm hne)).asymm hfloat (kind_of_mem_valuesOf hkind hv.mem)
    (kind_of_mem_valuesOf hkind hw.mem) (hw.precedes v hv.mem hne)

/-- A feature is among the sorted records exactly if it has values. -/
theorem mem_listing_iff {id : Int64} : id ∈ listing carriers order ↔ valuesOf carriers id ≠ [] := by
  rw [listing, List.mem_map]
  constructor
  · rintro ⟨x, hx, rfl⟩
    obtain ⟨carrier, hplace, hcarrier, hkey⟩ := mem_placed.1 (mem_sorted.1 hx)
    exact List.ne_nil_of_mem (mem_valuesOf.2
      ⟨carrier, List.mem_of_getElem? hplace, hcarrier, StoreOrder.mem_of_firstOf? hkey⟩)
  · intro hne
    obtain ⟨v, hv⟩ := List.exists_mem_of_ne_nil _ hne
    obtain ⟨carrier, hcarrier, hid, hmem⟩ := mem_valuesOf.1 hv
    obtain ⟨place, hplace⟩ := List.getElem?_of_mem hcarrier
    obtain ⟨x, hx, hxid, -⟩ := exists_placed hfloat hkind hplace hmem order
    exact ⟨x, mem_sorted.2 hx, hxid.trans hid⟩

/-- A feature with values has a first sorted record. -/
theorem exists_find?_of_ne_nil {id : Int64} (h : valuesOf carriers id ≠ []) (order : StoreOrder) :
    ∃ x, (sorted carriers order).find? (fun z => z.featureId == id) = some x := by
  have hlisted : id ∈ listing carriers order := (mem_listing_iff hfloat hkind).2 h
  obtain ⟨x, hx, hid⟩ := List.mem_map.1 hlisted
  rw [← Option.isSome_iff_exists, List.find?_isSome]
  exact ⟨x, hx, by simpa using hid⟩

/-- A feature with a key has a first sorted record, which is the first that carries the key. -/
theorem IsKey.exists_find? {order : StoreOrder} {id : Int64} {v : Value}
    (h : IsKey carriers order.descending id v) :
    ∃ x, (sorted carriers order).find? (fun z => z.featureId == id) = some x ∧ x.key = v
      ∧ x.place = placeOf carriers id v := by
  obtain ⟨x, hx⟩ := exists_find?_of_ne_nil hfloat hkind (List.ne_nil_of_mem h.mem) order
  obtain ⟨hkey, hplace⟩ := isKey_of_find? hfloat hkind hx
  obtain rfl := hkey.unique hfloat hkind h
  exact ⟨x, hx, rfl, hplace⟩

/-! ### The order of features -/

variable {a b : Int64}

/-- Of two features with values that one is listed first whose first sorted record goes before the other's. -/
theorem idxOf_listing_lt_iff {x y : Placed} (hne : a ≠ b)
    (hx : (sorted carriers order).find? (fun z => z.featureId == a) = some x)
    (hy : (sorted carriers order).find? (fun z => z.featureId == b) = some y) :
    (listing carriers order).idxOf a < (listing carriers order).idxOf b ↔ x.Before order y :=
  idxOf_map_lt_iff (fun _ _ => Placed.Before.asymm) (pairwise_sorted hfloat hkind) hne hx hy

/-- No feature goes before itself. -/
theorem GoesBefore.ne {descending : Bool} (h : GoesBefore carriers descending a b) : a ≠ b := by
  rintro rfl
  cases h with
  | keyed key keyless => exact List.ne_nil_of_mem key.mem keyless
  | key key other precedes =>
      obtain rfl := key.unique hfloat hkind other
      have hself := kind_of_mem_valuesOf hkind key.mem
      exact precedes.asymm hfloat hself hself precedes
  | tie key other earlier => exact Nat.lt_irrefl _ earlier
  | keyless keyless other smaller => exact Int64.lt_irrefl smaller

/-- The sorted records put a feature before those that it goes before. -/
theorem GoesBefore.ranksBefore (h : GoesBefore carriers order.descending a b) :
    RanksBefore (listing carriers order) a b := by
  have hne := h.ne hfloat hkind
  cases h with
  | keyed key keyless =>
      have ha : a ∈ listing carriers order :=
        (mem_listing_iff hfloat hkind).2 (List.ne_nil_of_mem key.mem)
      have hb : b ∉ listing carriers order := fun hb => (mem_listing_iff hfloat hkind).1 hb keyless
      refine Or.inl ?_
      rw [List.idxOf_eq_length hb]
      exact List.idxOf_lt_length_iff.2 ha
  | key key other precedes =>
      obtain ⟨x, hx, rfl, -⟩ := key.exists_find? hfloat hkind
      obtain ⟨y, hy, rfl, -⟩ := other.exists_find? hfloat hkind
      have hxkind := kind_of_mem_valuesOf hkind key.mem
      have hykind := kind_of_mem_valuesOf hkind other.mem
      refine Or.inl ((idxOf_listing_lt_iff hfloat hkind hne hx hy).2 ⟨?_, fun hyx => ?_⟩)
      · exact (StoreOrder.not_follows_iff_precedes hfloat hxkind hykind).2 (Or.inr precedes)
      · rcases (StoreOrder.not_follows_iff_precedes hfloat hykind hxkind).1 hyx with heq | hback
        · rw [heq] at precedes
          exact absurd precedes (precedes.asymm hfloat hxkind hxkind)
        · exact absurd hback (precedes.asymm hfloat hxkind hykind)
  | tie key other earlier =>
      obtain ⟨x, hx, rfl, hxplace⟩ := key.exists_find? hfloat hkind
      obtain ⟨y, hy, hykey, hyplace⟩ := other.exists_find? hfloat hkind
      have hxkind := kind_of_mem_valuesOf hkind key.mem
      refine Or.inl ((idxOf_listing_lt_iff hfloat hkind hne hx hy).2 ⟨?_, fun _ => ?_⟩)
      · rw [hykey]
        exact (StoreOrder.not_follows_iff_precedes hfloat hxkind hxkind).2 (Or.inl rfl)
      · rw [hxplace, hyplace]
        exact earlier
  | keyless keyless other smaller =>
      have hnot : ∀ {id : Int64}, valuesOf carriers id = [] → id ∉ listing carriers order :=
        fun h hid => (mem_listing_iff hfloat hkind).1 hid h
      refine Or.inr ⟨?_, smaller⟩
      rw [List.idxOf_eq_length (hnot keyless), List.idxOf_eq_length (hnot other)]

/-- Of two features one goes before the other. -/
theorem goesBefore_total (hne : a ≠ b) (order : StoreOrder) :
    GoesBefore carriers order.descending a b ∨ GoesBefore carriers order.descending b a := by
  have hkey : ∀ {id : Int64}, valuesOf carriers id ≠ [] →
      ∃ v, IsKey carriers order.descending id v := by
    intro id hid
    obtain ⟨x, hx⟩ := exists_find?_of_ne_nil hfloat hkind hid order
    exact ⟨x.key, (isKey_of_find? hfloat hkind hx).1⟩
  by_cases ha : valuesOf carriers a = []
  · by_cases hb : valuesOf carriers b = []
    · rcases Int64.lt_or_lt_of_ne hne with hlt | hgt
      · exact Or.inl (.keyless ha hb hlt)
      · exact Or.inr (.keyless hb ha hgt)
    · obtain ⟨w, hw⟩ := hkey hb
      exact Or.inr (.keyed hw ha)
  · obtain ⟨v, hv⟩ := hkey ha
    by_cases hb : valuesOf carriers b = []
    · exact Or.inl (.keyed hv hb)
    · obtain ⟨w, hw⟩ := hkey hb
      by_cases hvw : v = w
      · subst hvw
        rcases Nat.lt_trichotomy (placeOf carriers a v) (placeOf carriers b v) with hlt | heq | hgt
        · exact Or.inl (.tie hv hw hlt)
        · exact absurd (eq_of_placeOf_eq hv.mem heq) hne
        · exact Or.inr (.tie hw hv hgt)
      · rcases Value.precedes_or_precedes hfloat (kind_of_mem_valuesOf hkind hv.mem)
          (kind_of_mem_valuesOf hkind hw.mem) hvw order.descending with hprec | hprec
        · exact Or.inl (.key hv hw hprec)
        · exact Or.inr (.key hw hv hprec)

/-- **The order of keys.** The sorted records put one feature before another one exactly if it goes before it. -/
theorem ranksBefore_listing_iff :
    RanksBefore (listing carriers order) a b ↔ GoesBefore carriers order.descending a b := by
  refine ⟨fun h => ?_, fun h => h.ranksBefore hfloat hkind⟩
  have hne : a ≠ b := by
    rintro rfl
    exact h.asymm h
  rcases goesBefore_total hfloat hkind hne order with hab | hba
  · exact hab
  · exact absurd (hba.ranksBefore hfloat hkind) h.asymm

end Uniform

end Carrier

/-! ### The keys of a store -/

namespace Record

variable {ρ : Type} [Record ρ]

/-- The records that pass some filters, with their values for a property. -/
def carriers (records : List ρ) (filters : List Filter) (p : Property) : List Carrier :=
  (records.filter fun record => passes record filters).map fun record =>
    ⟨featureId record, values record p⟩

/-- An ordered query selects the features of the sorted records. -/
theorem select_eq_listing (records : List ρ) (collection : Collection) (filters : List Filter)
    (order : StoreOrder) :
    select records ⟨collection, filters, some order⟩
      = Carrier.listing (carriers records filters order.property) order := by
  let entry : Carrier.Placed → Value × Int64 := fun x => (x.key, x.featureId)
  let entryOf : Carrier → Option (Value × Int64) := fun carrier =>
    (order.firstOf? carrier.values).map fun key => (key, carrier.featureId)
  have hkeyed : (Carrier.placed (carriers records filters order.property) order).map entry
      = keyed records filters order :=
    calc (Carrier.placed (carriers records filters order.property) order).map entry
      _ = (carriers records filters order.property).zipIdx.filterMap (entryOf ∘ Prod.fst) := by
          rw [Carrier.placed, List.map_filterMap]
          exact List.filterMap_congr fun x _ => Option.map_map _ _ _
      _ = ((carriers records filters order.property).zipIdx.map Prod.fst).filterMap entryOf :=
          List.filterMap_map.symm
      _ = (carriers records filters order.property).filterMap entryOf := by
          rw [List.zipIdx_map_fst]
      _ = keyed records filters order := List.filterMap_map
  rw [select]
  dsimp only
  rw [← hkeyed, ← List.map_mergeSort (f := entry) (r := fun x y => !order.follows x.key y.key)
    fun _ _ _ _ => rfl, List.map_map]
  rfl

variable [LawfulRecord ρ]

/-- The values of records for a property are of its kind. -/
theorem kind_of_mem_carriers {records : List ρ} {filters : List Filter} {p : Property} :
    ∀ carrier ∈ carriers records filters p, ∀ v ∈ carrier.values, v.kind = p.kind := by
  intro carrier hcarrier v hv
  obtain ⟨record, -, rfl⟩ := List.mem_map.1 hcarrier
  exact (LawfulRecord.describes record p).kind_of_mem v hv

end Record

namespace Store

/-- The records that a key looks at, with their values for it: the feature itself or its stages of some
types, and for the two keys about reviews its gates that wait, or that are decided. -/
def carriers (store : Store) : SortKey → List Carrier
  | .field f =>
    match f.binding.target with
    | .primary => store.features.map fun feature => ⟨feature.id, feature.values f.binding.property⟩
    | .joined stageTypes =>
      (store.stages.filter fun stage => stage.stageType ∈ stageTypes).map fun stage =>
        ⟨stage.featureId, stage.values f.binding.property⟩
  | .requestedOn =>
    (store.gates.filter fun gate => gate.state ∈ Gate.pendingStates).map fun gate =>
      ⟨gate.featureId, gate.values .requestedOn⟩
  | .reviewedOn =>
    (store.gates.filter fun gate => gate.state ∈ Gate.finalStates).map fun gate =>
      ⟨gate.featureId, gate.values .resolvedOn⟩

/-- The gates in some states, with their times, are those that pass the filter on the states. -/
theorem carriers_gatesIn (store : Store) (states : List Int64) (p : Property) :
    ((store.gates.filter fun gate => gate.state ∈ states).map fun gate =>
        Carrier.mk gate.featureId (gate.values p))
      = Record.carriers store.gates [.oneOf .gateState (states.map .int)] p := by
  refine congrArg (List.map _) (List.filter_congr fun gate _ => ?_)
  rw [Bool.eq_iff_iff, decide_eq_true_eq, ← Filter.accepts_oneOf_int_iff .gateState]
  exact Iff.of_eq (congrArg (· = true) (Bool.and_true _).symm)

/-- **Selection.** The query of a key lists the features of its sorted records, whose values are of the kind of
one property. -/
theorem exists_select_orderQuery (store : Store) (key : SortKey) (descending : Bool) :
    ∃ p, (∀ carrier ∈ store.carriers key, ∀ v ∈ carrier.values, v.kind = p.kind)
      ∧ store.select (key.orderQuery descending)
          = Carrier.listing (store.carriers key) ⟨p, descending⟩ := by
  cases key with
  | field f =>
      refine ⟨f.binding.property, ?_⟩
      rw [carriers, SortKey.orderQuery, Binding.base]
      cases f.binding.target with
      | primary =>
          have hcarriers : (store.features.map fun feature =>
              Carrier.mk feature.id (feature.values f.binding.property))
                = Record.carriers store.features [] f.binding.property := by
            have hall : (store.features.filter fun feature => Record.passes feature [])
                = store.features := List.filter_eq_self.2 fun _ _ => rfl
            rw [Record.carriers, hall]
            rfl
          dsimp only
          rw [hcarriers]
          exact ⟨Record.kind_of_mem_carriers, Record.select_eq_listing store.features _ _ _⟩
      | joined stageTypes =>
          have hcarriers : ((store.stages.filter fun stage => stage.stageType ∈ stageTypes).map
              fun stage => Carrier.mk stage.featureId (stage.values f.binding.property))
                = Record.carriers store.stages [.oneOf .stageType (stageTypes.map .int)]
                    f.binding.property := by
            refine congrArg (List.map _) (List.filter_congr fun stage _ => ?_)
            rw [Bool.eq_iff_iff, decide_eq_true_eq, stage.passes_types_iff]
            exact (and_iff_left rfl).symm
          dsimp only
          rw [hcarriers]
          exact ⟨Record.kind_of_mem_carriers, Record.select_eq_listing store.stages _ _ _⟩
  | requestedOn =>
      refine ⟨.requestedOn, ?_⟩
      rw [carriers, carriers_gatesIn]
      exact ⟨Record.kind_of_mem_carriers, Record.select_eq_listing store.gates _ _ _⟩
  | reviewedOn =>
      refine ⟨.resolvedOn, ?_⟩
      rw [carriers, carriers_gatesIn]
      exact ⟨Record.kind_of_mem_carriers, Record.select_eq_listing store.gates _ _ _⟩

/-- **Sorting by a key.** The members of a set are sorted, each once. By a key, one stands before another one
exactly if it goes before it: it has a key and the other has none, its key comes first, it has the same key
and is the first to carry it, or both have no key and it is smaller. Without a key to sort by, they stand in
ascending order. -/
theorem sort_by_key {store : Store} (online : store.Online) (ids : IdSet) (spec : SortSpec) :
    ((store.sort ids spec).value.Nodup ∧ ∀ id, id ∈ (store.sort ids spec).value ↔ id ∈ ids)
      ∧ (∀ key : SortKey, Text.lowerAscii spec.key.toList = key.spelling.toList →
          ∀ a ∈ ids, ∀ b ∈ ids,
            ((store.sort ids spec).value.idxOf a < (store.sort ids spec).value.idxOf b
              ↔ Carrier.GoesBefore (store.carriers key) spec.descending a b))
      ∧ ((∀ key : SortKey, Text.lowerAscii spec.key.toList ≠ key.spelling.toList) →
          (store.sort ids spec).value = ids.toList) := by
  have hvalue : (store.sort ids spec).value = ids.rank (store.totalOrder spec).value := rfl
  rw [hvalue]
  refine ⟨⟨ids.nodup_rank _, fun id => mem_rank⟩, fun key hkey a ha b hb => ?_, fun hunknown => ?_⟩
  · have hname := SortKey.ofName?_eq_some_iff.2 hkey
    obtain ⟨p, hkind, hselect⟩ := store.exists_select_orderQuery key spec.descending
    have horder : (store.totalOrder spec).value = Carrier.listing (store.carriers key) ⟨p, spec.descending⟩ := by
      rw [totalOrder, hname]
      dsimp only
      rw [online.fetchIds (key.valid_orderQuery spec.descending), hselect]
      rfl
    rw [IdSet.idxOf_rank_lt_iff ha hb, horder]
    exact Carrier.ranksBefore_listing_iff p.not_float hkind
  · have hname : SortKey.ofName? spec.key = none := by
      cases hkey : SortKey.ofName? spec.key with
      | none => rfl
      | some key => exact absurd (SortKey.ofName?_eq_some_iff.1 hkey) (hunknown key)
    rw [totalOrder_unknown hname]
    exact ids.rank_nil

/-- Stages of two features, one of which ships to the desktop twice. -/
def ofShipments : Store :=
  .ofRecords [] [.shippedIn 2 120, .shippedIn 1 90, .shippedIn 1 120] [] []

/-- In descending order both features have the same key, and the one whose stage was put in first stands first.
By a key that does not exist they stand in ascending order. -/
theorem sort_by_key_tie :
    ofShipments.Online
      ∧ (Text.lowerAscii "Browsers.Chrome.DESKTOP".toList = (SortKey.field .desktop).spelling.toList
        ∧ Carrier.GoesBefore (ofShipments.carriers (.field .desktop)) true 2 1
        ∧ (ofShipments.sort (.ofList [2, 1]) ⟨"Browsers.Chrome.DESKTOP", true⟩).value.idxOf 2
          < (ofShipments.sort (.ofList [2, 1]) ⟨"Browsers.Chrome.DESKTOP", true⟩).value.idxOf 1)
      ∧ (∀ key : SortKey, Text.lowerAscii "platform".toList ≠ key.spelling.toList)
        ∧ (ofShipments.sort (.ofList [2, 1]) ⟨"platform", true⟩).value = [1, 2] := by
  have online : ofShipments.Online := online_ofRecords _ _ _ _
  obtain ⟨-, hsorted, -⟩ := sort_by_key online (.ofList [2, 1]) ⟨"Browsers.Chrome.DESKTOP", true⟩
  obtain ⟨-, -, hunknown⟩ := sort_by_key online (.ofList [2, 1]) ⟨"platform", true⟩
  have hname : Text.lowerAscii "Browsers.Chrome.DESKTOP".toList
      = (SortKey.field .desktop).spelling.toList := by decide +kernel
  have hvalues₁ : Carrier.valuesOf (ofShipments.carriers (.field .desktop)) 1 = [.int 90, .int 120] := by
    decide +kernel
  have hvalues₂ : Carrier.valuesOf (ofShipments.carriers (.field .desktop)) 2 = [.int 120] := by
    decide +kernel
  have hkey₁ : Carrier.IsKey (ofShipments.carriers (.field .desktop)) true 1 (.int 120) := by
    constructor
    · simp [hvalues₁]
    · intro w hw hne
      rw [hvalues₁, List.mem_cons, List.mem_singleton] at hw
      rw [hw.resolve_right hne]
      rfl
  have hkey₂ : Carrier.IsKey (ofShipments.carriers (.field .desktop)) true 2 (.int 120) := by
    constructor
    · simp [hvalues₂]
    · intro w hw hne
      rw [hvalues₂, List.mem_singleton] at hw
      exact absurd hw hne
  have hbefore : Carrier.GoesBefore (ofShipments.carriers (.field .desktop)) true 2 1 :=
    .tie hkey₂ hkey₁ (by decide +kernel)
  have hnone : ∀ key : SortKey, Text.lowerAscii "platform".toList ≠ key.spelling.toList := by
    intro key hspelled
    have hread : SortKey.ofName? "platform" = none := by decide +kernel
    rw [SortKey.ofName?_eq_some_iff.2 hspelled] at hread
    exact absurd hread (by simp)
  refine ⟨online, ⟨hname, hbefore, ?_⟩, hnone, ?_⟩
  · exact (hsorted (.field .desktop) hname 2 (by decide +kernel) 1 (by decide +kernel)).2 hbefore
  · rw [hunknown hnone]
    decide +kernel

end Store

end FeatureQuery
