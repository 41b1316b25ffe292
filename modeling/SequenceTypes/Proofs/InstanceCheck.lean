import SequenceTypes.Item
import SequenceTypes.Proofs.SubtypeOrder

/-! Instance checks and subtyping. The check of a sequence is the check of its length and of every item,
whether or not the first item answers for all. A type that contains neither tests nor signatures then has
all the instances of its subtypes. -/

namespace SequenceTypes

namespace ItemType

@[simp] theorem hasInstance_item (i : Item) : item.hasInstance i = true := by
  cases i <;> rw [hasInstance]

/-- A map is checked against a map type entry by entry, and nothing else is an instance. -/
theorem map_hasInstance_iff {k : AtomicType} {v : SeqType} {i : Item} :
    (map k v).hasInstance i ↔
      ∃ entries, i = .map entries ∧ ∀ e ∈ entries, e.1.type.subtypeOf k ∧ v.hasInstance e.2 := by
  cases i <;>
    simp [hasInstance, Item.contentType, Item.runtimeType, subtypeOf]

/-- An array is checked against an array type member by member, and nothing else is an instance. -/
theorem array_hasInstance_iff {m : SeqType} {i : Item} :
    (array m).hasInstance i ↔ ∃ members, i = .array members ∧ ∀ v ∈ members, m.hasInstance v := by
  cases i <;>
    simp [hasInstance, Item.contentType, Item.runtimeType, subtypeOf]

theorem hasInstance_of_not_container {t : ItemType} {i : Item} (hmap : ∀ k v, t ≠ map k v)
    (harray : ∀ m, t ≠ array m) : t.hasInstance i = i.contentType.subtypeOf t := by
  cases t with
  | map k v => exact absurd rfl (hmap k v)
  | array m => exact absurd rfl (harray m)
  | item => rw [hasInstance_item, subtypeOf_item]
  | _ => rw [hasInstance] <;> simp

theorem atomic_hasInstance_eq (s : AtomicType) (i : Item) :
    (atomic s).hasInstance i = i.contentType.subtypeOf (atomic s) :=
  hasInstance_of_not_container (fun _ _ h => nomatch h) (fun _ h => nomatch h)

theorem node_hasInstance_eq (k : NodeKind) (i : Item) :
    (node k).hasInstance i = i.contentType.subtypeOf (node k) :=
  hasInstance_of_not_container (fun _ _ h => nomatch h) (fun _ h => nomatch h)

theorem function_hasInstance_eq (f : FunctionType) (i : Item) :
    (function f).hasInstance i = i.contentType.subtypeOf (function f) :=
  hasInstance_of_not_container (fun _ _ h => nomatch h) (fun _ h => nomatch h)

theorem any_hasInstance_eq (i : Item) : (function .any).hasInstance i = i.isFunction := by
  rw [function_hasInstance_eq]
  cases i <;> simp [Item.contentType, Item.runtimeType, Item.isFunction, subtypeOf]

theorem isFunction_of_hasInstance {t : ItemType} {i : Item} (ht : t.isFunction) (hi : t.hasInstance i) :
    i.isFunction := by
  cases t with
  | item | atomic _ | node _ => simp [isFunction] at ht
  | function f =>
      rw [function_hasInstance_eq] at hi
      cases i with
      | atomic _ | node _ => simp [Item.contentType, Item.runtimeType, subtypeOf] at hi
      | _ => rfl
  | map k v =>
      obtain ⟨entries, rfl, _⟩ := map_hasInstance_iff.1 hi
      rfl
  | array m =>
      obtain ⟨members, rfl, _⟩ := array_hasInstance_iff.1 hi
      rfl

/-- An item that is neither a map nor an array is an instance by its runtime type alone. -/
theorem hasInstance_eq_runtimeType (t : ItemType) {i : Item} (hmap : ∀ entries, i ≠ .map entries)
    (harray : ∀ members, i ≠ .array members) : t.hasInstance i = i.runtimeType.subtypeOf t := by
  cases i with
  | map entries => exact absurd rfl (hmap entries)
  | array members => exact absurd rfl (harray members)
  | _ => cases t <;> simp [hasInstance, Item.contentType, Item.runtimeType, subtypeOf]

theorem hasInstance_atomic (t : ItemType) (a : AtomicValue) :
    t.hasInstance (.atomic a) = (atomic a.type).subtypeOf t :=
  hasInstance_eq_runtimeType t (fun _ h => nomatch h) (fun _ h => nomatch h)

theorem hasInstance_node (t : ItemType) (n : Node) :
    t.hasInstance (.node n) = (node n.kind).subtypeOf t :=
  hasInstance_eq_runtimeType t (fun _ h => nomatch h) (fun _ h => nomatch h)

end ItemType

/-- Atomic values of one type match the same types. -/
theorem SeqType.hasItem_congr_type (s : SeqType) {a b : AtomicValue} (hab : a.type = b.type) :
    s.hasItem (.atomic a) = s.hasItem (.atomic b) := by
  unfold hasItem
  rw [ItemType.hasInstance_atomic, ItemType.hasInstance_atomic, hab]
  rfl

theorem Sequence.isHomogeneous_cons {i : Item} {rest : Sequence}
    (h : isHomogeneous (i :: rest)) :
    ∃ a, i = .atomic a ∧ ∀ j ∈ rest, ∃ b, j = .atomic b ∧ b.type = a.type := by
  cases i with
  | atomic a =>
      refine ⟨a, rfl, fun j hj => ?_⟩
      have hall := List.all_eq_true.1 h j hj
      cases j with
      | atomic b => exact ⟨b, rfl, of_decide_eq_true hall⟩
      | _ => simp at hall
  | _ => simp [isHomogeneous] at h

/-- Where all items are atomic values of one type, the first one answers for all. -/
theorem SeqType.hasItem_of_homogeneous {s : SeqType} {v : Sequence} (hv : v.isHomogeneous)
    (hhead : v.head?.all s.hasItem) : ∀ i ∈ v, s.hasItem i := by
  cases v with
  | nil => simp [Sequence.isHomogeneous] at hv
  | cons first rest =>
      obtain ⟨a, rfl, hrest⟩ := Sequence.isHomogeneous_cons hv
      have ha : s.hasItem (.atomic a) = true := hhead
      intro i hi
      rcases List.mem_cons.1 hi with rfl | hi
      · exact ha
      · obtain ⟨b, rfl, hb⟩ := hrest i hi
        rw [s.hasItem_congr_type hb]
        exact ha

/-- A sequence is an instance if its length is admitted and all its items match. -/
theorem SeqType.hasInstance_iff {s : SeqType} {v : Sequence} :
    s.hasInstance v ↔ s.occurrence.admits v.length ∧ ∀ i ∈ v, s.hasItem i := by
  cases s with
  | empty =>
      cases v <;> simp [hasInstance, occurrence, Occurrence.admits, Occurrence.upper?, Occurrence.lower]
  | of t o k h =>
      rw [hasInstance, Bool.and_eq_true]
      refine and_congr_right fun _ => ?_
      split
      · next hhom =>
          constructor
          · exact hasItem_of_homogeneous (s := .of t o k h) hhom
          · intro hall
            cases v with
            | nil => rfl
            | cons first rest => exact hall first List.mem_cons_self
      · exact List.all_eq_true

/-- If instances of item types carry over to supertypes, instances of sequence types do. -/
theorem SeqType.hasInstance_of_items {a b : SeqType} {v : Sequence} (htest : b.test? = none)
    (hitems : ∀ i, a.itemType.subtypeOf b.itemType → a.itemType.hasInstance i →
      b.itemType.hasInstance i)
    (hab : a.subtypeOf b) (hv : a.hasInstance v) : b.hasInstance v := by
  rw [hasInstance_iff] at hv ⊢
  obtain ⟨hlength, hall⟩ := hv
  cases a with
  | empty =>
      cases v with
      | nil => exact ⟨Occurrence.admits_zero_iff.2 (empty_subtypeOf_iff.1 hab), by simp⟩
      | cons i rest => simp [occurrence, Occurrence.admits, Occurrence.upper?] at hlength
  | of t o k h =>
      obtain ⟨u, p, l, hp, rfl, htu, hop, _⟩ := of_subtypeOf_iff.1 hab
      refine ⟨Occurrence.admits_of_subtypeOf hop hlength, fun i hi => ?_⟩
      have hi := hall i hi
      simp only [hasItem, Bool.and_eq_true, htest] at hi ⊢
      exact ⟨hitems i htu hi.1, rfl⟩

/-- An instance of an item type is one of every supertype without tests and signatures. -/
theorem ItemType.hasInstance_of_subtypeOf {t u : ItemType} {i : Item} (hu : u.within .plain)
    (htu : t.subtypeOf u) (hi : t.hasInstance i) : u.hasInstance i :=
  match u with
  | .item => hasInstance_item i
  | .atomic s => by
      obtain ⟨r, rfl, _⟩ := subtypeOf_atomic_iff.1 htu
      rw [atomic_hasInstance_eq] at hi ⊢
      exact subtypeOf_trans (Or.inr (Or.inr rfl)) hi htu
  | .node k => by
      obtain ⟨j, rfl, _⟩ := subtypeOf_node_iff.1 htu
      rw [node_hasInstance_eq] at hi ⊢
      exact subtypeOf_trans (Or.inr (Or.inr rfl)) hi htu
  | .function .any => by
      rw [any_hasInstance_eq]
      exact isFunction_of_hasInstance (isFunction_of_subtypeOf rfl htu) hi
  | .function (.of ps r) => by simp [within, Fragment.plain] at hu
  | .map l w => by
      obtain ⟨k, v, rfl, hkl, hvw⟩ := subtypeOf_map_iff.1 htu
      obtain ⟨entries, rfl, hall⟩ := map_hasInstance_iff.1 hi
      have hw : w.within .plain := by
        rw [within, Bool.and_eq_true] at hu
        exact hu.2
      have hlt := w.itemType_weight_lt
      refine map_hasInstance_iff.2 ⟨entries, rfl, fun e he => ?_⟩
      obtain ⟨hkey, hvalue⟩ := hall e he
      refine ⟨AtomicType.subtypeOf_trans hkey hkl, ?_⟩
      exact SeqType.hasInstance_of_items (SeqType.test?_eq_none_of_within rfl hw)
        (fun _ => hasInstance_of_subtypeOf (SeqType.itemType_within rfl hw)) hvw hvalue
  | .array n => by
      obtain ⟨m, rfl, hmn⟩ := subtypeOf_array_iff.1 htu
      obtain ⟨members, rfl, hall⟩ := array_hasInstance_iff.1 hi
      have hn : n.within .plain := by
        rw [within, Bool.and_eq_true] at hu
        exact hu.2
      have hlt := n.itemType_weight_lt
      refine array_hasInstance_iff.2 ⟨members, rfl, fun v hv => ?_⟩
      exact SeqType.hasInstance_of_items (SeqType.test?_eq_none_of_within rfl hn)
        (fun _ => hasInstance_of_subtypeOf (SeqType.itemType_within rfl hn)) hmn (hall v hv)
termination_by u.weight
decreasing_by all_goals simp only [weight]; omega

/-- An instance of a sequence type is one of every supertype that contains neither tests nor
signatures. -/
theorem SeqType.subsumption {a b : SeqType} {v : Sequence} (hb : b.within .plain)
    (hab : a.subtypeOf b) (hv : a.hasInstance v) : b.hasInstance v :=
  hasInstance_of_items (test?_eq_none_of_within rfl hb)
    (fun _ => ItemType.hasInstance_of_subtypeOf (itemType_within rfl hb)) hab hv

/-- A map from integers to arrays of functions with a signature is one to arrays of any functions. -/
theorem SeqType.subsumption_nested :
    (ItemType.map .anyAtomic
      (ItemType.array (.of (.function .any) .zeroMore none (by decide))).single).single.hasInstance
        [.map [(.integer .long 7, [.array [[.function none [] .empty], []]])]] :=
  subsumption (a := (ItemType.map .integer (ItemType.array
      (.of (.function (.of [] .empty)) .zeroOne none (by decide))).single).single)
    (by decide) (by decide +kernel) (by decide +kernel)

end SequenceTypes
