import SequenceTypes.Proofs.AbsentIntersection
import SequenceTypes.Proofs.TreatCheck

/-! What the instances of a type may contain. Whether there may be numbers is read off the item type, and
the answer is exact: an atomic type with a number below it is a number type or the root of all atomic types.
Whether there may be arrays is asked of the type of all arrays. This overlooks the arrays that are functions
by what they contain: where the item type is a signature with a result other than `item()*`, an array may be
an instance although the type of all arrays is no subtype. In all other cases the answer is right. -/

namespace SequenceTypes

namespace SeqType

variable {s : SeqType} {i : Item} {v : Sequence}

theorem isZero_of_mem (hv : s.hasInstance v) (hi : i ∈ v) : s.isZero = false := by
  cases s with
  | empty =>
      obtain rfl := List.isEmpty_iff.1 hv
      cases hi
  | of t o k h => exact decide_eq_false h

theorem hasItem_of_mem (hv : s.hasInstance v) (hi : i ∈ v) : s.hasItem i := (hasInstance_iff.1 hv).2 i hi

end SeqType

namespace AtomicType

/-- Above the numbers there is nothing but the root. -/
theorem isNumeric_or_eq_anyAtomic {s t : AtomicType} (hs : s.isNumeric) (hst : s.subtypeOf t) :
    t.isNumeric ∨ t = anyAtomic := by
  rcases comparable_of_subtypeOf hst hs with hnumeric | hnumeric
  · exact Or.inl hnumeric
  · rcases eq_or_subtypeOf_of_parent? (p := anyAtomic) rfl hnumeric with rfl | hany
    · exact Or.inl rfl
    · exact Or.inr (eq_anyAtomic_of_subtypeOf hany)

/-- Every number type, and the root, has a number that is well-formed. -/
theorem exists_number {t : AtomicType} (ht : t.isNumeric ∨ t = anyAtomic) :
    ∃ a : AtomicValue, a.isWellFormed ∧ a.type.isNumeric ∧ a.type.subtypeOf t := by
  cases t with
  | double => exact ⟨.double (.ofInt 0), rfl, rfl, rfl⟩
  | float => exact ⟨.float (.ofInt 0), rfl, rfl, rfl⟩
  | nonNegativeInteger => exact ⟨.integer .nonNegativeInteger 0, rfl, rfl, rfl⟩
  | anyAtomic | numeric | decimal | integer | long | int => exact ⟨.integer .int 0, rfl, rfl, rfl⟩
  | _ => rcases ht with h | h <;> cases h

end AtomicType

namespace ItemType

/-- An item type with a number is a type of numbers, or all atomic values are below it. -/
theorem isNumeric_or_anyAtomic_of_number {t : ItemType} {a : AtomicValue} (ha : a.type.isNumeric)
    (hi : t.hasInstance (.atomic a)) : t.isNumeric ∨ (atomic .anyAtomic).subtypeOf t := by
  rw [hasInstance_atomic] at hi
  cases t with
  | item => exact Or.inr (subtypeOf_item _)
  | atomic s =>
      rw [subtypeOf] at hi
      rcases AtomicType.isNumeric_or_eq_anyAtomic ha hi with hs | rfl
      · exact Or.inl hs
      · exact Or.inr (subtypeOf_refl _)
  | _ => simp [subtypeOf] at hi

theorem exists_number {t : ItemType} (ht : t.isNumeric ∨ (atomic .anyAtomic).subtypeOf t) :
    ∃ a : AtomicValue, a.isWellFormed ∧ a.type.isNumeric ∧ t.hasInstance (.atomic a) := by
  -- the atomic type below which a number is looked for
  have hbelow : ∃ s : AtomicType, (s.isNumeric ∨ s = .anyAtomic) ∧ (atomic s).subtypeOf t := by
    rcases ht with hnumeric | hany
    · cases t with
      | atomic s => exact ⟨s, Or.inl hnumeric, subtypeOf_refl _⟩
      | _ => cases hnumeric
    · exact ⟨.anyAtomic, Or.inr rfl, hany⟩
  obtain ⟨s, hs, hst⟩ := hbelow
  obtain ⟨a, hwf, ha, hsub⟩ := AtomicType.exists_number hs
  refine ⟨a, hwf, ha, ?_⟩
  rw [hasInstance_atomic]
  refine subtypeOf_trans (Or.inl rfl) ?_ hst
  rwa [subtypeOf]

/-- A type that has an array is the type of some arrays or above that of all arrays, unless it is a signature
that asks for something of the members. -/
theorem isArray_or_anyArray_iff {t : ItemType} {members : List (List Item)}
    (ht : t.hasInstance (.array members)) :
    t.isArray ∨ anyArray.subtypeOf t ↔ ∀ ps r, t = .function (.of ps r) → r = .anyItems := by
  cases t with
  | item => exact iff_of_true (Or.inr (subtypeOf_item _)) fun _ _ h => by cases h
  | array m => exact iff_of_true (Or.inl rfl) fun _ _ h => by cases h
  | atomic _ | node _ | map _ _ => simp [hasInstance, Item.contentType, subtypeOf] at ht
  | function f =>
      cases f with
      | any =>
          refine iff_of_true (Or.inr ?_) fun _ _ h => by cases h
          exact array_subtypeOf_iff.2 (Or.inr (Or.inr ⟨_, rfl, FunctionType.subtypeOf_any _⟩))
      | of ps r =>
          rw [function_hasInstance_eq, Item.contentType, subtypeOf, FunctionType.ofArray,
            FunctionType.subtypeOf, Bool.and_eq_true] at ht
          have hall : anyArray.subtypeOf (.function (.of ps r)) ↔ r = .anyItems := by
            rw [anyArray, subtypeOf, FunctionType.ofArray, FunctionType.subtypeOf, ht.1, Bool.true_and]
            exact SeqType.anyItems_subtypeOf_iff
          constructor
          · rintro (harray | hsub) qs s heq
            · cases harray
            · cases heq
              exact hall.1 hsub
          · intro h
            exact Or.inr (hall.2 (h ps r rfl))

end ItemType

namespace SeqType

variable {s : SeqType}

theorem mayBeNumber_iff :
    s.mayBeNumber ↔
      s.isZero = false ∧ (s.itemType.isNumeric ∨ (ItemType.atomic .anyAtomic).subtypeOf s.itemType) := by
  simp [mayBeNumber]

theorem mayBeArray_iff :
    s.mayBeArray ↔ s.isZero = false ∧ (s.itemType.isArray ∨ ItemType.anyArray.subtypeOf s.itemType) := by
  simp [mayBeArray]

/-- Where an array may occur, one does, if there is no test: the array without members is in every array
type. -/
theorem exists_array (htest : s.test? = none) (hmay : s.mayBeArray) : s.hasInstance [.array []] := by
  obtain ⟨hzero, harray⟩ := mayBeArray_iff.1 hmay
  apply hasInstance_singleton_of_not_isZero hzero htest
  rcases harray with hown | hall
  · cases hs : s.itemType with
    | array m => exact ItemType.array_hasInstance_iff.2 ⟨[], rfl, by simp⟩
    | _ =>
        rw [hs] at hown
        cases hown
  · exact ItemType.hasInstance_array_of_anyArray hall

/-- Instances hold numbers only where the type says so. They hold arrays only where it says so, or where the
item type is a signature whose result is not `item()*`, and there the answer is wrong. Without a test, no
positive answer is given in vain. -/
theorem possible_content_exact (s : SeqType) :
    (∀ v a, s.hasInstance v → .atomic a ∈ v → a.type.subtypeOf .numeric → s.mayBeNumber) ∧
    (∀ v members, s.hasInstance v → .array members ∈ v →
      (s.mayBeArray ↔ ∀ ps r, s.itemType = .function (.of ps r) → r = .anyItems)) ∧
    (s.test? = none →
      (s.mayBeNumber → ∃ v a, s.hasInstance v ∧ .atomic a ∈ v ∧ a.type.subtypeOf .numeric ∧ a.isWellFormed) ∧
      (s.mayBeArray → ∃ v members, s.hasInstance v ∧ .array members ∈ v)) := by
  refine ⟨?_, ?_, fun htest => ⟨?_, ?_⟩⟩
  · intro v a hv ha hnumeric
    have hitem := (hasItem_iff.1 (hasItem_of_mem hv ha)).1
    exact mayBeNumber_iff.2
      ⟨isZero_of_mem hv ha, ItemType.isNumeric_or_anyAtomic_of_number hnumeric hitem⟩
  · intro v members hv hmem
    have hitem := (hasItem_iff.1 (hasItem_of_mem hv hmem)).1
    rw [mayBeArray_iff, and_iff_right (isZero_of_mem hv hmem)]
    exact ItemType.isArray_or_anyArray_iff hitem
  · intro hmay
    obtain ⟨hzero, hnumber⟩ := mayBeNumber_iff.1 hmay
    obtain ⟨a, hwf, hnumeric, hi⟩ := ItemType.exists_number hnumber
    have hv := hasInstance_singleton_of_not_isZero hzero htest hi
    exact ⟨_, a, hv, List.mem_singleton_self _, hnumeric, hwf⟩
  · intro hmay
    exact ⟨_, [], exists_array htest hmay, List.mem_singleton_self _⟩

/-- Items of all kinds, and an array that serves as a function from positions to anything. -/
theorem possible_content_of_items_and_lookups :
    let items : SeqType := of .item .oneMore none (by decide)
    let lookups : SeqType := (ItemType.function (.of [(ItemType.atomic .integer).single] .anyItems)).single
    let array : Item := .array [[.atomic (.boolean true)], []]
    items.hasInstance [array, .atomic (.integer .long 7)] ∧ items.mayBeNumber ∧
      lookups.hasInstance [array] ∧ lookups.mayBeArray := by
  intro items lookups array
  have hitems : items.hasInstance [array, .atomic (.integer .long 7)] := by decide +kernel
  have hlookups : lookups.hasInstance [array] := by decide +kernel
  refine ⟨hitems, (possible_content_exact items).1 _ _ hitems (List.mem_cons_of_mem _ List.mem_cons_self) rfl,
    hlookups, ?_⟩
  refine ((possible_content_exact lookups).2.1 _ _ hlookups List.mem_cons_self).2 ?_
  intro ps r heq
  cases heq
  rfl

/-- An array of integers is a function from positions to integers, but no array is expected there. -/
theorem mayBeArray_denies_array :
    let integer : SeqType := (ItemType.atomic .integer).single
    let signature : SeqType := (ItemType.function (.of [integer] integer)).single
    let array : Item := .array [[.atomic (.integer .integer 1)]]
    signature.hasInstance [array] ∧ signature.mayBeArray = false := by
  intro integer signature array
  exact ⟨by decide +kernel, by decide +kernel⟩

end SeqType
end SequenceTypes
