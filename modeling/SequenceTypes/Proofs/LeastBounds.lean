import SequenceTypes.Proofs.UnionBounds

/-! Least and greatest bounds. Below a type without tests and signatures a union is the least upper bound
of any two types: it stays below every such type that covers both. The intersection of two such types is
above everything they both cover. Where in addition no map is keyed by the list type, unions are upper and
intersections lower bounds, so that these types have joins, and meets wherever they intersect. -/

namespace SequenceTypes

namespace ItemType

theorem plain_function {f : FunctionType} (h : (function f).within .plain) : f = .any := by
  cases f with
  | any => rfl
  | of ps r => cases (within_function_iff.1 h).1

theorem itemType_weight_lt_map (k : AtomicType) (v : SeqType) :
    v.itemType.weight < (map k v).weight := by
  have := v.itemType_weight_lt
  simp only [weight]
  omega

theorem itemType_weight_lt_array (m : SeqType) : m.itemType.weight < (array m).weight := by
  have := m.itemType_weight_lt
  simp only [weight]
  omega

end ItemType

namespace SeqType

variable {s : SeqType}

theorem plain_of_signatureFree (h : s.within .signatureFree) : s.within .plain := by
  refine within_mono (f := .signatureFree) (g := .plain) (fun t ht => ?_) (fun _ hk => hk) h
  cases t with
  | function f => cases f <;> simp_all [Fragment.signatureFree, Fragment.plain]
  | _ => rfl

theorem regular_of_signatureFree (h : s.within .signatureFree) : s.within .regular := by
  refine within_mono (f := .signatureFree) (fun t ht => ?_) (fun _ _ => rfl) h
  cases t with
  | function f => cases f <;> simp_all [Fragment.signatureFree, Fragment.regular]
  | map k v => cases k <;> simp_all [Fragment.signatureFree, Fragment.regular]
  | _ => rfl

end SeqType

namespace ItemType

theorem isFunction_union {a b : ItemType} (ha : a.isFunction) (hb : b.isFunction) :
    (a.union b).isFunction := by
  generalize hc : a.union b = c
  cases unionShape hc with
  | below hab => exact hb
  | above hab hba => exact ha
  | atomic | node hjk hkj => cases ha
  | map hab hba | array hmn hnm | function hfg hgf => rfl
  | apart =>
      rw [ha, hb]
      rfl

theorem atomic_union_subtypeOf {s t u : AtomicType} (hs : s.subtypeOf u) (ht : t.subtypeOf u) :
    ((atomic s).union (atomic t)).subtypeOf (atomic u) := by
  generalize hc : (atomic s).union (atomic t) = c
  cases unionShape hc with
  | below hab => exact subtypeOf_atomic_iff.2 ⟨t, rfl, ht⟩
  | above hab hba => exact subtypeOf_atomic_iff.2 ⟨s, rfl, hs⟩
  | atomic =>
      cases hst : s.union? t with
      | none => exact absurd ht (AtomicType.not_subtypeOf_of_union?_none hst hs)
      | some r => exact subtypeOf_atomic_iff.2 ⟨r, rfl, AtomicType.union?_subtypeOf hst hs ht⟩
  | apart hab hba hatomic => exact absurd rfl (hatomic s t rfl)

theorem node_union_subtypeOf {i j k : NodeKind} (hi : i.subtypeOf k) (hj : j.subtypeOf k) :
    ((node i).union (node j)).subtypeOf (node k) := by
  generalize hc : (node i).union (node j) = c
  cases unionShape hc with
  | below hab => exact subtypeOf_node_iff.2 ⟨j, rfl, hj⟩
  | above hab hba => exact subtypeOf_node_iff.2 ⟨i, rfl, hi⟩
  | node hij hji =>
      -- two kinds that are not comparable are covered by `node()` alone
      rcases NodeKind.subtypeOf_iff.1 hi with rfl | rfl
      · exact subtypeOf_refl _
      · exact absurd hj hji
  | apart hab hba hatomic hnode => exact absurd rfl (hnode i j rfl)

theorem map_union_subtypeOf {k l m : AtomicType} {v w x : SeqType} (hk : k.subtypeOf m)
    (hl : l.subtypeOf m) (hv : v.subtypeOf x) (hw : w.subtypeOf x) (hvw : (v.union w).subtypeOf x) :
    ((map k v).union (map l w)).subtypeOf (map m x) := by
  generalize hc : (map k v).union (map l w) = c
  cases unionShape hc with
  | below hab => exact subtypeOf_map_iff.2 ⟨l, w, rfl, hl, hw⟩
  | above hab hba => exact subtypeOf_map_iff.2 ⟨k, v, rfl, hk, hv⟩
  | map hab hba =>
      cases hkl : k.union? l with
      | none => exact absurd hl (AtomicType.not_subtypeOf_of_union?_none hkl hk)
      | some r => exact subtypeOf_map_iff.2 ⟨r, _, rfl, AtomicType.union?_subtypeOf hkl hk hl, hvw⟩
  | apart hab hba hatomic hnode hmap => exact absurd rfl (hmap k v l w rfl)

theorem array_union_subtypeOf {m n x : SeqType} (hm : m.subtypeOf x) (hn : n.subtypeOf x)
    (hmn : (m.union n).subtypeOf x) : ((array m).union (array n)).subtypeOf (array x) := by
  generalize hc : (array m).union (array n) = c
  cases unionShape hc with
  | below hab => exact subtypeOf_array_iff.2 ⟨n, rfl, hn⟩
  | above hab hba => exact subtypeOf_array_iff.2 ⟨m, rfl, hm⟩
  | array => exact subtypeOf_array_iff.2 ⟨_, rfl, hmn⟩
  | apart hab hba hatomic hnode hmap harray => exact absurd rfl (harray m n rfl)

end ItemType

namespace SeqType

/-- Below a type without test, the occurrence and the items are all that matters. -/
theorem subtypeOf_iff_of_no_test {a c : SeqType} (htest : c.test? = none) :
    a.subtypeOf c ↔
      a.occurrence.subtypeOf c.occurrence ∧ (a = empty ∨ a.itemType.subtypeOf c.itemType) := by
  cases a with
  | empty =>
      rw [empty_subtypeOf_iff, ← Occurrence.zero_subtypeOf_iff]
      exact ⟨fun h => ⟨h, Or.inl rfl⟩, And.left⟩
  | of t o k ho => simp [subtypeOf, htest, occurrence, itemType, and_comm]

theorem occurrence_union (a b : SeqType) :
    (a.union b).occurrence = a.occurrence.union b.occurrence := by
  cases a with
  | empty => rw [union, occurrence_make]; rfl
  | of t o k ho =>
      cases b with
      | empty => rw [union, occurrence_make]; rfl
      | of u p l hp =>
          rw [union]
          split <;> rw [occurrence_make] <;> rfl

/-- If the union of the item types is least, the union of the sequence types is, below a type without
test. -/
theorem union_subtypeOf_of_items {a b c : SeqType} (htest : c.test? = none)
    (hitems : a.itemType.subtypeOf c.itemType → b.itemType.subtypeOf c.itemType →
      (a.itemType.union b.itemType).subtypeOf c.itemType)
    (hac : a.subtypeOf c) (hbc : b.subtypeOf c) : (a.union b).subtypeOf c := by
  rw [subtypeOf_iff_of_no_test htest] at hac hbc ⊢
  obtain ⟨hao, hai⟩ := hac
  obtain ⟨hbo, hbi⟩ := hbc
  refine ⟨?_, ?_⟩
  · rw [occurrence_union]
    exact Occurrence.union_subtypeOf_iff.2 ⟨hao, hbo⟩
  · cases a with
    | empty =>
        cases b with
        | empty => exact Or.inl (by rw [union]; rfl)
        | of u p l hp =>
            have hu := hbi.resolve_left (by simp)
            rw [union, occurrence, make_of_ne_zero _ _ (Occurrence.union_ne_zero_right hp _)]
            exact Or.inr hu
    | of t o k ho =>
        have ht := hai.resolve_left (by simp)
        cases b with
        | empty =>
            rw [union, make_of_ne_zero _ _ (Occurrence.union_ne_zero_left ho _)]
            exact Or.inr ht
        | of u p l hp =>
            have hu := hbi.resolve_left (by simp)
            rw [union]
            split
            · rw [make_of_ne_zero _ _ (Occurrence.union_ne_zero_left ho _)]
              exact Or.inr ht
            · rw [make_of_ne_zero _ _ (Occurrence.union_ne_zero_left ho _)]
              exact Or.inr (hitems ht hu)

end SeqType

/-- A union of item types stays below every type without tests and signatures that covers both. -/
theorem ItemType.union_subtypeOf {a b c : ItemType} (hc : c.within .plain) (hac : a.subtypeOf c)
    (hbc : b.subtypeOf c) : (a.union b).subtypeOf c := by
  -- on the weight of the upper bound, whose values or members are the next bounds
  induction hn : c.weight using Nat.strongRecOn generalizing a b c with
  | ind n ih =>
      subst hn
      have hseq : ∀ {v w x : SeqType}, x.within .plain → x.itemType.weight < c.weight →
          v.subtypeOf x → w.subtypeOf x → (v.union w).subtypeOf x := by
        intro v w x hx hlt hv hw
        exact SeqType.union_subtypeOf_of_items (SeqType.test?_eq_none_of_within rfl hx)
          (fun hv hw => ih _ hlt (SeqType.itemType_within rfl hx) hv hw rfl) hv hw
      cases c with
      | item => exact subtypeOf_item _
      | atomic u =>
          obtain ⟨s, rfl, hs⟩ := subtypeOf_atomic_iff.1 hac
          obtain ⟨t, rfl, ht⟩ := subtypeOf_atomic_iff.1 hbc
          exact atomic_union_subtypeOf hs ht
      | node k =>
          obtain ⟨i, rfl, hi⟩ := subtypeOf_node_iff.1 hac
          obtain ⟨j, rfl, hj⟩ := subtypeOf_node_iff.1 hbc
          exact node_union_subtypeOf hi hj
      | function f =>
          obtain rfl := plain_function hc
          have ha := isFunction_of_subtypeOf rfl hac
          have hb := isFunction_of_subtypeOf rfl hbc
          exact subtypeOf_any_of_isFunction (isFunction_union ha hb)
      | map m x =>
          obtain ⟨k, v, rfl, hk, hv⟩ := subtypeOf_map_iff.1 hac
          obtain ⟨l, w, rfl, hl, hw⟩ := subtypeOf_map_iff.1 hbc
          have hvw := hseq (within_map_iff.1 hc).2 (itemType_weight_lt_map m x) hv hw
          exact map_union_subtypeOf hk hl hv hw hvw
      | array x =>
          obtain ⟨m, rfl, hm⟩ := subtypeOf_array_iff.1 hac
          obtain ⟨o, rfl, ho⟩ := subtypeOf_array_iff.1 hbc
          have hmo := hseq (within_array_iff.1 hc).2 (itemType_weight_lt_array x) hm ho
          exact array_union_subtypeOf hm ho hmo

theorem SeqType.union_subtypeOf {a b c : SeqType} (hc : c.within .plain) (hac : a.subtypeOf c)
    (hbc : b.subtypeOf c) : (a.union b).subtypeOf c :=
  union_subtypeOf_of_items (test?_eq_none_of_within rfl hc)
    (ItemType.union_subtypeOf (itemType_within rfl hc)) hac hbc

namespace SeqType

/-- If the intersection of the item types is greatest, the intersection of the sequence types is, where
neither has a test. -/
theorem subtypeOf_intersect?_of_items {a b d m : SeqType} (ha : a.test? = none) (hb : b.test? = none)
    (hitems : ∀ i, a.itemType.intersect? b.itemType = some i → d.itemType.subtypeOf a.itemType →
      d.itemType.subtypeOf b.itemType → d.itemType.subtypeOf i)
    (h : a.intersect? b = some m) (hda : d.subtypeOf a) (hdb : d.subtypeOf b) : d.subtypeOf m := by
  obtain ⟨o, i, k, ho, hi, hk, rfl⟩ := intersect?_eq_some_iff.1 h
  rw [subtypeOf_iff_of_no_test ha] at hda
  rw [subtypeOf_iff_of_no_test hb] at hdb
  have hdo := (Occurrence.subtypeOf_intersect?_iff ho).2 ⟨hda.1, hdb.1⟩
  rw [ha, hb] at hk
  cases hk
  cases d with
  | empty =>
      rw [empty_subtypeOf_iff, occurrence_make]
      exact Nat.le_zero.1 (Occurrence.subtypeOf_iff.1 hdo).1
  | of t p l hp =>
      have hne : o ≠ .zero := by
        rintro rfl
        exact hp (Occurrence.eq_zero_of_subtypeOf hdo)
      have hti := hitems i hi (hda.2.resolve_left (by simp)) (hdb.2.resolve_left (by simp))
      rw [make_of_ne_zero _ _ hne]
      exact of_subtypeOf_of_iff.2 ⟨hti, hdo, rfl⟩

end SeqType

/-- What two item types without tests and signatures both cover lies below their intersection. -/
theorem ItemType.subtypeOf_intersect? {a b d m : ItemType} (ha : a.within .plain)
    (hb : b.within .plain) (h : a.intersect? b = some m) (hda : d.subtypeOf a) (hdb : d.subtypeOf b) :
    d.subtypeOf m := by
  induction hn : d.weight using Nat.strongRecOn generalizing a b d m with
  | ind n ih =>
      subst hn
      have hseq : ∀ {v w i x : SeqType}, v.within .plain → w.within .plain →
          x.itemType.weight < d.weight → v.intersect? w = some i → x.subtypeOf v → x.subtypeOf w →
          x.subtypeOf i := by
        intro v w i x hv hw hlt hi hxv hxw
        exact SeqType.subtypeOf_intersect?_of_items (SeqType.test?_eq_none_of_within rfl hv)
          (SeqType.test?_eq_none_of_within rfl hw)
          (fun _ hi hxv hxw => ih _ hlt (SeqType.itemType_within rfl hv)
            (SeqType.itemType_within rfl hw) hi hxv hxw rfl) hi hxv hxw
      cases intersectShape h with
      | below hab => exact hda
      | above hab hba => exact hdb
      | lookupLeft hab hlookup hf => exact hda
      | lookupRight hba hlookup hf => exact hdb
      | function hfg hgf hi =>
          rw [plain_function ha, plain_function hb] at hfg
          exact absurd (FunctionType.subtypeOf_any _) hfg
      | map hab hba hkey hvalue =>
          obtain ⟨r, x, rfl, hrk, hxv⟩ := subtypeOf_map_iff.1 hda
          rw [subtypeOf, Bool.and_eq_true] at hdb
          have hr := (AtomicType.subtypeOf_intersect?_iff hkey).2 ⟨hrk, hdb.1⟩
          have hx := hseq (within_map_iff.1 ha).2 (within_map_iff.1 hb).2 (itemType_weight_lt_map r x)
            hvalue hxv hdb.2
          exact subtypeOf_map_iff.2 ⟨r, x, rfl, hr, hx⟩
      | array hmn hnm hi =>
          obtain ⟨x, rfl, hxm⟩ := subtypeOf_array_iff.1 hda
          rw [subtypeOf] at hdb
          have hx := hseq (within_array_iff.1 ha).2 (within_array_iff.1 hb).2 (itemType_weight_lt_array x)
            hi hxm hdb
          exact subtypeOf_array_iff.2 ⟨x, rfl, hx⟩

theorem SeqType.subtypeOf_intersect? {a b d m : SeqType} (ha : a.within .plain) (hb : b.within .plain)
    (h : a.intersect? b = some m) (hda : d.subtypeOf a) (hdb : d.subtypeOf b) : d.subtypeOf m :=
  subtypeOf_intersect?_of_items (test?_eq_none_of_within rfl ha) (test?_eq_none_of_within rfl hb)
    (fun _ => ItemType.subtypeOf_intersect? (itemType_within rfl ha) (itemType_within rfl hb)) h hda hdb

/-- The union of two signature-free types is their least upper bound among these types, and their
intersection, where it exists, is their greatest lower bound. -/
theorem SeqType.union_least_intersect_greatest {a b : SeqType} (ha : a.within .signatureFree)
    (hb : b.within .signatureFree) :
    a.subtypeOf (a.union b) ∧ b.subtypeOf (a.union b) ∧
    (∀ c : SeqType, c.within .signatureFree → a.subtypeOf c → b.subtypeOf c → (a.union b).subtypeOf c) ∧
    ∀ m, a.intersect? b = some m →
      m.subtypeOf a ∧ m.subtypeOf b ∧
        ∀ d : SeqType, d.within .signatureFree → d.subtypeOf a → d.subtypeOf b → d.subtypeOf m := by
  have haReg := regular_of_signatureFree ha
  have hbReg := regular_of_signatureFree hb
  obtain ⟨hau, hbu⟩ := (union_covers_iff a b).2 (unionCovers_of_regular haReg hbReg)
  refine ⟨hau, hbu, fun c hc hac hbc => ?_, fun m hm => ?_⟩
  · exact union_subtypeOf (plain_of_signatureFree hc) hac hbc
  · obtain ⟨hma, hmb⟩ := (intersect?_fits_iff hm).2 (intersectFits_of_regular haReg hbReg hm)
    refine ⟨hma, hmb, fun d _ hda hdb => ?_⟩
    exact subtypeOf_intersect? (plain_of_signatureFree ha) (plain_of_signatureFree hb) hm hda hdb

/-- Maps from integers to nodes and maps from decimals to elements. Both are maps from decimals to items, and
a map from 32-bit integers to an element is both. -/
theorem SeqType.bounds_of_map_types :
    let toNodes : SeqType := of (.map .integer (of (.node .any) .zeroMore none (by decide))) .oneMore none
      (by decide)
    let toElements : SeqType := of (.map .decimal (of (.node .element) .oneMore none (by decide)))
      .zeroOne none (by decide)
    let toItems : SeqType := of (.map .decimal anyItems) .zeroMore none (by decide)
    let both : SeqType := (ItemType.map .integer (of (.node .element) .oneMore none (by decide))).single
    let toElement : SeqType := (ItemType.map .int (ItemType.node .element).single).single
    toNodes.intersect? toElements = some both ∧
      toNodes.subtypeOf (toNodes.union toElements) ∧ toElements.subtypeOf (toNodes.union toElements) ∧
      (toNodes.union toElements).subtypeOf toItems ∧
      both.subtypeOf toNodes ∧ both.subtypeOf toElements ∧ toElement.subtypeOf both := by
  intro toNodes toElements toItems both toElement
  have hboth : toNodes.intersect? toElements = some both := by with_unfolding_all rfl
  obtain ⟨hleft, hright, hleast, hgreatest⟩ :=
    union_least_intersect_greatest (a := toNodes) (b := toElements) (by decide) (by decide)
  obtain ⟨hbothLeft, hbothRight, hbelow⟩ := hgreatest both hboth
  have hitems := hleast toItems (by decide) (by decide +kernel) (by decide +kernel)
  have helement := hbelow toElement (by decide) (by decide +kernel) (by decide +kernel)
  exact ⟨hboth, hleft, hright, hitems, hbothLeft, hbothRight, helement⟩

end SequenceTypes
