import SequenceTypes.Proofs.InstanceCheck
import SequenceTypes.Proofs.UnionBounds

/-! Intersections of flat types, those of items, atomic values and nodes, with any tests. Flat item types
form a forest under `item()`: two that share an instance are comparable, and the lower one is their
intersection. Tests intersect by kind and by name. A flat intersection therefore has exactly the instances
that both types have, and where there is none, no sequence with items belongs to both. -/

namespace SequenceTypes

namespace ItemType

variable {t u m : ItemType} {i : Item}

theorem plain_of_flat (ht : t.isFunction = false) : t.within .plain := by
  cases t with
  | item | atomic _ | node _ => rfl
  | function _ | map _ _ | array _ => cases ht

theorem hasInstance_of_flat (ht : t.isFunction = false) (i : Item) :
    t.hasInstance i = i.contentType.subtypeOf t := by
  apply hasInstance_of_not_container
  · rintro k v rfl
    cases ht
  · rintro m rfl
    cases ht

/-- Flat types above a common type are comparable. -/
theorem comparable_of_flat {c : ItemType} (ht : t.isFunction = false) (hu : u.isFunction = false)
    (hct : c.subtypeOf t) (hcu : c.subtypeOf u) : t.subtypeOf u ∨ u.subtypeOf t := by
  cases t with
  | item => exact Or.inr (subtypeOf_item u)
  | atomic s =>
      obtain ⟨r, rfl, hrs⟩ := subtypeOf_atomic_iff.1 hct
      cases u with
      | item => exact Or.inl (subtypeOf_item _)
      | atomic x =>
          simp only [subtypeOf] at hcu ⊢
          exact AtomicType.comparable_of_subtypeOf hrs hcu
      | _ => simp [subtypeOf] at hcu
  | node k =>
      obtain ⟨j, rfl, hjk⟩ := subtypeOf_node_iff.1 hct
      cases u with
      | item => exact Or.inl (subtypeOf_item _)
      | node l =>
          simp only [subtypeOf] at hcu ⊢
          exact NodeKind.comparable_of_subtypeOf hjk hcu
      | _ => simp [subtypeOf] at hcu
  | function _ | map _ _ | array _ => cases ht

/-- A flat intersection is the lower of the two types. -/
theorem hasInstance_intersect?_iff (ht : t.isFunction = false) (hu : u.isFunction = false)
    (h : t.intersect? u = some m) : m.hasInstance i ↔ t.hasInstance i ∧ u.hasInstance i := by
  cases intersectShape h with
  | below htu =>
      refine ⟨fun hi => ⟨hi, ?_⟩, And.left⟩
      exact hasInstance_of_subtypeOf (plain_of_flat hu) htu hi
  | above _ hut =>
      refine ⟨fun hi => ⟨?_, hi⟩, And.right⟩
      exact hasInstance_of_subtypeOf (plain_of_flat ht) hut hi
  | map | array | function | lookupRight => cases ht
  | lookupLeft => cases hu

theorem isSome_intersect?_of_hasInstance (ht : t.isFunction = false) (hu : u.isFunction = false)
    (hti : t.hasInstance i) (hui : u.hasInstance i) : (t.intersect? u).isSome := by
  rw [hasInstance_of_flat ht] at hti
  rw [hasInstance_of_flat hu] at hui
  exact isSome_intersect?_of_comparable (comparable_of_flat ht hu hti hui)

end ItemType

def Item.hasEmptyUri : Item → Bool
  | .node n => n.hasEmptyUri
  | _ => false

namespace KindTest

variable {a b c : KindTest} {i : Item}

theorem acceptsItem_iff : a.acceptsItem i ↔ ∃ n, i = .node n ∧ a.accepts n := by
  cases i <;> simp [acceptsItem]

theorem acceptsItem_of_beq (h : a == b) (ha : a.acceptsItem i) : b.acceptsItem i := by
  obtain ⟨n, rfl, hn⟩ := acceptsItem_iff.1 ha
  exact accepts_of_beq h hn

theorem acceptsItem_intersect?_iff (h : a.intersect? b = some c) :
    c.acceptsItem i ↔ a.acceptsItem i ∧ b.acceptsItem i ∧
      (a.names.meetInNoNamespace b.names → i.hasEmptyUri = false) := by
  cases i with
  | node n => exact accepts_intersect?_iff h
  | _ => simp [acceptsItem]

end KindTest

/-- Whether both tests are there, and their conditions on names meet in the test for a name in no namespace. -/
def testsMeetInNoNamespace : Option KindTest → Option KindTest → Bool
  | some k, some l => k.names.meetInNoNamespace l.names
  | _, _ => false

theorem acceptsItem_mergeTests?_iff {k l m : Option KindTest} (h : mergeTests? k l = some m) {i : Item} :
    m.all (·.acceptsItem i) ↔ k.all (·.acceptsItem i) ∧ l.all (·.acceptsItem i) ∧
      (testsMeetInNoNamespace k l → i.hasEmptyUri = false) := by
  unfold mergeTests? at h
  split at h
  · cases h
    simp [testsMeetInNoNamespace]
  · cases h
    simp [testsMeetInNoNamespace]
  · split at h
    · next s t hst =>
        cases h
        have hmeet : s.names.meetInNoNamespace t.names = false :=
          NameTest.meetInNoNamespace_of_beq (KindTest.beq_iff.1 hst).2
        simpa [testsMeetInNoNamespace, hmeet] using KindTest.acceptsItem_of_beq hst
    · obtain ⟨u, hu, rfl⟩ := Option.map_eq_some_iff.1 h
      exact KindTest.acceptsItem_intersect?_iff hu

theorem isSome_mergeTests? {k l : Option KindTest} {i : Item} (hk : k.all (·.acceptsItem i))
    (hl : l.all (·.acceptsItem i)) : (mergeTests? k l).isSome := by
  unfold mergeTests?
  split
  · rfl
  · rfl
  · obtain ⟨n, rfl, hs⟩ := KindTest.acceptsItem_iff.1 hk
    split
    · rfl
    · rw [Option.isSome_map]
      exact KindTest.isSome_intersect?_of_accepts hs hl

namespace SeqType

variable {a b m : SeqType} {v : Sequence}

theorem hasItem_iff {i : Item} :
    a.hasItem i ↔ a.itemType.hasInstance i ∧ a.test?.all (·.acceptsItem i) := by
  rw [hasItem, Bool.and_eq_true]

/-- Types whose tests ask for a name in no namespace by its parts lose the nodes named with the empty URI. -/
def LosesNodes (a b : SeqType) (v : Sequence) : Prop :=
  testsMeetInNoNamespace a.test? b.test? ∧ ∃ i ∈ v, i.hasEmptyUri

instance : Decidable (LosesNodes a b v) := inferInstanceAs (Decidable (_ ∧ _))

theorem not_losesNodes_iff :
    ¬LosesNodes a b v ↔ ∀ i ∈ v, testsMeetInNoNamespace a.test? b.test? → i.hasEmptyUri = false := by
  simp only [LosesNodes, not_and, not_exists, Bool.not_eq_true]
  exact ⟨fun h i hi hmeet => h hmeet i hi, fun h hmeet i hi => h i hi hmeet⟩

theorem hasItem_make_iff (ha : a.itemType.isFunction = false) (hb : b.itemType.isFunction = false)
    {t : ItemType} {o : Occurrence} {k : Option KindTest} (ho : o ≠ .zero)
    (ht : a.itemType.intersect? b.itemType = some t) (hk : mergeTests? a.test? b.test? = some k) {i : Item} :
    (make t o k).hasItem i ↔ (a.hasItem i ∧ b.hasItem i) ∧
      (testsMeetInNoNamespace a.test? b.test? → i.hasEmptyUri = false) := by
  rw [make_of_ne_zero _ _ ho, hasItem_iff, hasItem_iff, hasItem_iff, itemType, test?,
    ItemType.hasInstance_intersect?_iff ha hb ht, acceptsItem_mergeTests?_iff hk, ← and_assoc (a := _ = true),
    ← and_assoc, and_and_and_comm]

theorem hasInstance_intersect?_iff (ha : a.itemType.isFunction = false)
    (hb : b.itemType.isFunction = false) (h : a.intersect? b = some m) :
    m.hasInstance v ↔ (a.hasInstance v ∧ b.hasInstance v) ∧ ¬LosesNodes a b v := by
  obtain ⟨o, t, k, ho, ht, hk, rfl⟩ := intersect?_eq_some_iff.1 h
  rw [hasInstance_iff, hasInstance_iff, hasInstance_iff, occurrence_make, and_and_and_comm,
    ← Occurrence.admits_intersect?_iff ho, and_assoc, not_losesNodes_iff]
  refine and_congr_right fun hlength => ?_
  by_cases hzero : o = .zero
  · -- the item type and the test are dropped: only the empty sequence is left
    subst hzero
    obtain rfl : v = [] := by
      apply List.length_eq_zero_iff.1
      simpa [Occurrence.admits, Occurrence.lower, Occurrence.upper?] using hlength
    simp
  · simp only [hasItem_make_iff ha hb hzero ht hk, imp_and, forall_and]

/-- A common sequence with items has a count that both types admit, and items of both. -/
theorem exists_common_item (hv : v ≠ []) (hav : a.hasInstance v) (hbv : b.hasInstance v) :
    (a.occurrence.intersect? b.occurrence).isSome ∧ ∃ i, a.hasItem i ∧ b.hasItem i := by
  obtain ⟨hlena, halla⟩ := hasInstance_iff.1 hav
  obtain ⟨hlenb, hallb⟩ := hasInstance_iff.1 hbv
  obtain ⟨i, hi⟩ := List.exists_mem_of_ne_nil v hv
  exact ⟨Occurrence.isSome_intersect?_of_admits hlena hlenb, i, halla i hi, hallb i hi⟩

/-- Flat types that share a sequence with items have an intersection. -/
theorem isSome_intersect?_of_hasInstance (ha : a.itemType.isFunction = false)
    (hb : b.itemType.isFunction = false) (hv : v ≠ []) (hav : a.hasInstance v) (hbv : b.hasInstance v) :
    ∃ m, a.intersect? b = some m := by
  obtain ⟨hcount, i, hai, hbi⟩ := exists_common_item hv hav hbv
  obtain ⟨hta, hka⟩ := hasItem_iff.1 hai
  obtain ⟨htb, hkb⟩ := hasItem_iff.1 hbi
  rw [← Option.isSome_iff_exists, isSome_intersect?_iff]
  exact ⟨hcount, ItemType.isSome_intersect?_of_hasInstance ha hb hta htb, isSome_mergeTests? hka hkb⟩

/-- The intersection of flat types has the instances that both have, apart from sequences with a node that the
merged tests lose. Where there is no intersection, no sequence with items is an instance of both. -/
theorem intersect?_exact_of_flat (ha : a.itemType.isFunction = false)
    (hb : b.itemType.isFunction = false) (v : Sequence) :
    (∀ m, a.intersect? b = some m →
      (m.hasInstance v ↔ (a.hasInstance v ∧ b.hasInstance v) ∧ ¬LosesNodes a b v)) ∧
    (a.intersect? b = none → v ≠ [] → ¬(a.hasInstance v ∧ b.hasInstance v)) := by
  refine ⟨fun m h => hasInstance_intersect?_iff ha hb h, ?_⟩
  rintro hnone hv ⟨hav, hbv⟩
  obtain ⟨m, hm⟩ := isSome_intersect?_of_hasInstance ha hb hv hav hbv
  rw [hnone] at hm
  cases hm

/-- A condition on the namespace and one on the local name meet in a condition on the name, whose prefix
does not matter. -/
theorem intersect?_of_name_conditions :
    let inSpace : SeqType :=
      of (.node .element) .oneMore (some ⟨.element, .inNamespace "urn:a"⟩) (by decide)
    let called : SeqType := of .item .zeroOne (some ⟨.any, .localName "foo"⟩) (by decide)
    let both : SeqType :=
      of (.node .element) .one (some ⟨.element, .name (.inNamespace "urn:a" "foo")⟩) (by decide)
    let v : Sequence := [.node (.element ⟨⟨some "urn:a", "foo"⟩, some "p"⟩ "content")]
    inSpace.itemType.isFunction = false ∧ called.itemType.isFunction = false ∧
      inSpace.intersect? called = some both ∧ both.hasInstance v := by
  intro inSpace called both v
  have hboth : inSpace.intersect? called = some both := by with_unfolding_all rfl
  refine ⟨rfl, rfl, hboth, ?_⟩
  refine ((intersect?_exact_of_flat (a := inSpace) (b := called) rfl rfl v).1 both hboth).2 ?_
  decide +kernel

/-- The element with the local name `foo` and the empty URI is in no namespace, and has the local name. The
test for both conditions has a name without URI, which is not the name of the element. -/
theorem intersect?_loses_empty_uri :
    let inNone : SeqType :=
      of (.node .element) .one (some ⟨.element, .inNamespace ""⟩) (by decide)
    let called : SeqType := of (.node .element) .one (some ⟨.element, .localName "foo"⟩) (by decide)
    let both : SeqType :=
      of (.node .element) .one (some ⟨.element, .name (.ofLocal "foo")⟩) (by decide)
    let v : Sequence := [.node (.element ⟨⟨some "", "foo"⟩, none⟩ "content")]
    inNone.intersect? called = some both ∧ inNone.hasInstance v ∧ called.hasInstance v ∧
      both.hasInstance v = false := by
  intro inNone called both v
  refine ⟨by with_unfolding_all rfl, ?_⟩
  decide +kernel

end SeqType
end SequenceTypes
