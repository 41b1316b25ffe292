import SequenceTypes.Proofs.FlatIntersection
import SequenceTypes.Proofs.LeastBounds
import SequenceTypes.Proofs.TreatCheck

/-! The static type as the principal type of a sequence. Its occurrence is the tightest for the length, and
its item type, folded by union from the runtime types of the items, is the least that covers them all. A
sequence of atomic values and nodes is therefore an instance of a type exactly if its static type is a
subtype. -/

namespace SequenceTypes

/-- The occurrence of a size is below those that admit the size. -/
theorem Occurrence.ofSize_subtypeOf_iff {n : Nat} {o : Occurrence} :
    (ofSize (some n)).subtypeOf o ↔ o.admits n := by
  constructor
  · intro h
    exact admits_of_subtypeOf h (admits_ofSize n)
  · intro h
    rw [admits_iff] at h
    match n with
    | 0 => exact zero_subtypeOf_iff.2 (Nat.le_zero.1 h.1)
    | 1 => exact subtypeOf_iff.2 h
    | n + 2 =>
        -- an indicator that admits two items has no upper bound
        cases o <;> simp_all [ofSize, subtypeOf, lower, upper?, boundLe]

namespace Sequence

theorem staticType_cons_eq (first : Item) (rest : Sequence) :
    ∃ t, staticType (first :: rest) = .make t (.ofSize (some (rest.length + 1))) none ∧
      (t = first.runtimeType ∨
        t = rest.foldl (fun t i => t.union i.runtimeType) first.runtimeType) := by
  rw [staticType]
  refine ⟨_, rfl, ?_⟩
  split
  · exact Or.inl rfl
  · exact Or.inr rfl

theorem occurrence_staticType (v : Sequence) : v.staticType.occurrence = .ofSize (some v.length) := by
  cases v with
  | nil => rfl
  | cons first rest =>
      obtain ⟨t, ht, _⟩ := staticType_cons_eq first rest
      rw [ht, SeqType.occurrence_make]
      rfl

theorem foldl_union_subtypeOf {t c : ItemType} (hc : c.within .plain) (ht : t.subtypeOf c) {v : Sequence}
    (hv : ∀ i ∈ v, i.runtimeType.subtypeOf c) :
    (v.foldl (fun t i => t.union i.runtimeType) t).subtypeOf c := by
  induction v generalizing t with
  | nil => exact ht
  | cons i v ih =>
      have hunion := ItemType.union_subtypeOf hc ht (hv i List.mem_cons_self)
      exact ih hunion fun j hj => hv j (List.mem_cons_of_mem i hj)

/-- The static type is below every type without tests and signatures that admits the length and covers the
runtime types of all items. -/
theorem staticType_subtypeOf {v : Sequence} {s : SeqType} (htest : s.test? = none)
    (hplain : s.itemType.within .plain) (hlength : s.occurrence.admits v.length)
    (hitems : ∀ i ∈ v, i.runtimeType.subtypeOf s.itemType) : v.staticType.subtypeOf s := by
  have hsize : v.staticType.occurrence.subtypeOf s.occurrence := by
    rw [occurrence_staticType]
    exact Occurrence.ofSize_subtypeOf_iff.2 hlength
  refine (SeqType.subtypeOf_iff_of_no_test htest).2 ⟨hsize, ?_⟩
  cases v with
  | nil => exact Or.inl rfl
  | cons first rest =>
      right
      have hfirst := hitems first List.mem_cons_self
      have hrest : ∀ i ∈ rest, i.runtimeType.subtypeOf s.itemType :=
        fun i hi => hitems i (List.mem_cons_of_mem first hi)
      obtain ⟨t, ht, hfold⟩ := staticType_cons_eq first rest
      have hne : Occurrence.ofSize (some (rest.length + 1)) ≠ .zero := by
        cases rest <;> simp [Occurrence.ofSize]
      rw [ht, SeqType.make_of_ne_zero _ _ hne, SeqType.itemType]
      rcases hfold with rfl | rfl
      · exact hfirst
      · exact foldl_union_subtypeOf hplain hfirst hrest

end Sequence

def Item.isContainer : Item → Bool
  | .map _ | .array _ => true
  | _ => false

namespace Item

variable {i : Item} {t : ItemType}

theorem hasInstance_iff_of_not_isContainer (hi : i.isContainer = false) :
    t.hasInstance i ↔ i.runtimeType.subtypeOf t := by
  have hmap : ∀ entries, i ≠ .map entries := by
    rintro entries rfl
    cases hi
  have harray : ∀ members, i ≠ .array members := by
    rintro members rfl
    cases hi
  rw [ItemType.hasInstance_eq_runtimeType t hmap harray]

theorem not_isContainer_of_not_isFunction (hi : i.isFunction = false) : i.isContainer = false := by
  cases i with
  | atomic _ | node _ => rfl
  | _ => cases hi

theorem not_overlooks_of_not_isFunction (hi : i.isFunction = false) : ¬t.overlooks i := by
  cases i with
  | atomic _ | node _ => simp [ItemType.overlooks]
  | _ => cases hi

/-- Only types of items, atomic values and nodes cover an atomic value or a node. -/
theorem plain_of_runtimeType_subtypeOf (hi : i.isFunction = false) (h : i.runtimeType.subtypeOf t) :
    t.within .plain := by
  cases ht : t.isFunction with
  | false => exact ItemType.plain_of_flat ht
  | true =>
      have hfun := ItemType.isFunction_of_subtypeOf ht h
      cases i with
      | atomic _ | node _ => cases hfun
      | _ => cases hi

end Item

/-- A sequence of atomic values and nodes is an instance of a type without test exactly if its static type
is a subtype: no other type says more about it. -/
theorem Sequence.staticType_principal {v : Sequence} (hv : ∀ i ∈ v, i.isFunction = false) {s : SeqType}
    (htest : s.test? = none) : s.hasInstance v ↔ v.staticType.subtypeOf s := by
  constructor
  · intro h
    obtain ⟨hlength, hall⟩ := SeqType.hasInstance_iff.1 h
    have hitems : ∀ i ∈ v, i.runtimeType.subtypeOf s.itemType := by
      intro i hi
      have hitem := (Bool.and_eq_true_iff.1 (hall i hi)).1
      have hcontainer := Item.not_isContainer_of_not_isFunction (hv i hi)
      exact (Item.hasInstance_iff_of_not_isContainer hcontainer).1 hitem
    cases v with
    | nil => exact SeqType.empty_subtypeOf_iff.2 (Occurrence.admits_zero_iff.1 hlength)
    | cons first rest =>
        have hplain := Item.plain_of_runtimeType_subtypeOf (hv first List.mem_cons_self)
          (hitems first List.mem_cons_self)
        exact staticType_subtypeOf htest hplain hlength hitems
  · intro h
    refine (SeqType.hasInstance_iff_of_staticType h).2 ?_
    rintro ⟨i, hi, hover⟩
    exact Item.not_overlooks_of_not_isFunction (hv i hi) hover

/-- A list value, a token and an element have `item()+` for their static type. Two integers of different
types are a sequence of integers, and of nothing less. -/
theorem Sequence.staticType_principal_mixed :
    let mixed : Sequence := [.atomic (.string .nmtokens "a b"), .atomic (.string .token "c"),
      .node (.element (.ofLocal "e") "")]
    let integers : Sequence := [.atomic (.integer .int 1), .atomic (.integer .nonNegativeInteger 2)]
    mixed.staticType = .of .item .oneMore none (by decide) ∧
      (SeqType.of .item .oneMore none (by decide)).hasInstance mixed ∧
      (SeqType.of (.atomic .integer) .zeroMore none (by decide)).hasInstance integers ∧
      ¬(SeqType.of (.atomic .long) .zeroMore none (by decide)).hasInstance integers := by
  intro mixed integers
  have hmixed : ∀ i ∈ mixed, i.isFunction = false := by decide
  have hintegers : ∀ i ∈ integers, i.isFunction = false := by decide
  refine ⟨by with_unfolding_all rfl, ?_, ?_, ?_⟩
  · exact (staticType_principal hmixed rfl).2 (by decide +kernel)
  · exact (staticType_principal hintegers rfl).2 (by decide +kernel)
  · intro h
    have hsub := (staticType_principal hintegers rfl).1 h
    revert hsub
    decide +kernel

end SequenceTypes
