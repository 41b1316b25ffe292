import SequenceTypes.Promotion
import SequenceTypes.Proofs.InstanceCheck
import SequenceTypes.Proofs.PrefixErasure

/-! Values and prefixes. Function items carry types, at any depth of a value. The types of a value change
in their prefixes only when prefixes are erased from those types, and whether a value is an instance of a
type, or one type can be promoted to another, does not change at all. -/

namespace SequenceTypes

mutual

/-- The item with all names in the types of its functions without prefixes. -/
def Item.bare : Item → Item
  | .atomic a => .atomic a
  | .node n => .node n
  | .function name? params result => .function name? (SeqType.bareAll params) result.bare
  | .coerced source type => .coerced source.bare type.bare
  | .map entries => .map (Item.bareEntries entries)
  | .array members => .array (Item.bareMembers members)

def Sequence.bare : Sequence → Sequence
  | [] => []
  | i :: is => i.bare :: Sequence.bare is

def Item.bareEntries : List (AtomicValue × List Item) → List (AtomicValue × List Item)
  | [] => []
  | (k, v) :: es => (k, Sequence.bare v) :: Item.bareEntries es

def Item.bareMembers : List (List Item) → List (List Item)
  | [] => []
  | v :: vs => Sequence.bare v :: Item.bareMembers vs

end

theorem Sequence.bare_eq_map (v : Sequence) : Sequence.bare v = v.map Item.bare := by
  induction v with
  | nil => rfl
  | cons i is ih => rw [Sequence.bare, ih, List.map_cons]

theorem Item.bareEntries_eq_map (es : List (AtomicValue × List Item)) :
    bareEntries es = es.map fun e => (e.1, Sequence.bare e.2) := by
  induction es with
  | nil => rfl
  | cons e es ih => rw [bareEntries, ih, List.map_cons]

theorem Item.bareMembers_eq_map (vs : List (List Item)) : bareMembers vs = vs.map Sequence.bare := by
  induction vs with
  | nil => rfl
  | cons v vs ih => rw [bareMembers, ih, List.map_cons]

theorem Item.runtimeType_bare (i : Item) : i.bare.runtimeType = i.runtimeType.bare := by
  cases i <;> rfl

namespace Sequence

theorem length_bare (v : Sequence) : (bare v).length = v.length := by
  rw [bare_eq_map, List.length_map]

theorem isHomogeneous_bare (v : Sequence) : isHomogeneous (bare v) = v.isHomogeneous := by
  cases v with
  | nil => rfl
  | cons first rest =>
      cases first with
      | atomic a =>
          rw [bare, Item.bare, bare_eq_map, isHomogeneous, isHomogeneous, List.all_map]
          congr 1
          funext i
          cases i <;> rfl
      | _ => rfl

/-- A fold of unions over items, from any type on. -/
theorem foldl_union_bare (t : ItemType) (v : Sequence) :
    (bare v).foldl (fun t i => t.union i.runtimeType) t.bare =
      (v.foldl (fun t i => t.union i.runtimeType) t).bare := by
  induction v generalizing t with
  | nil => rfl
  | cons i is ih =>
      rw [bare, List.foldl_cons, List.foldl_cons, i.runtimeType_bare, ItemType.union_bare, ih]

theorem staticType_bare (v : Sequence) : staticType (bare v) = v.staticType.bare := by
  cases v with
  | nil => rfl
  | cons first rest =>
      have hhom := isHomogeneous_bare (first :: rest)
      rw [bare] at hhom
      rw [bare, staticType, staticType, hhom, first.runtimeType_bare, foldl_union_bare, length_bare,
        ← SeqType.make_bare]
      split <;> rfl

end Sequence

theorem foldl_cover_bare (s : SeqType) (vs : List Sequence) :
    (vs.map Sequence.bare).foldl (fun s v => s.union (Sequence.staticType v)) s.bare =
      (vs.foldl (fun s v => s.union v.staticType) s).bare := by
  induction vs generalizing s with
  | nil => rfl
  | cons v vs ih =>
      rw [List.map_cons, List.foldl_cons, List.foldl_cons, v.staticType_bare, SeqType.union_bare, ih]

theorem coverSequences_bare (vs : List Sequence) :
    coverSequences (vs.map Sequence.bare) = (coverSequences vs).bare := by
  cases vs with
  | nil => rfl
  | cons v vs =>
      rw [List.map_cons, coverSequences, coverSequences, v.staticType_bare, foldl_cover_bare]

theorem Item.contentType_bare (i : Item) : i.bare.contentType = i.contentType.bare := by
  cases i with
  | map entries =>
      have hkeys : (bareEntries entries).map (·.1.type) = entries.map (·.1.type) := by
        rw [bareEntries_eq_map, List.map_map]
        rfl
      have hvalues : (bareEntries entries).map (·.2) = (entries.map (·.2)).map Sequence.bare := by
        rw [bareEntries_eq_map, List.map_map, List.map_map]
        rfl
      rw [bare, contentType, contentType, hkeys, hvalues, coverSequences_bare]
      rfl
  | array members =>
      rw [bare, contentType, contentType, bareMembers_eq_map, coverSequences_bare]
      rfl
  | _ => rfl

theorem KindTest.bare_acceptsItem (k : KindTest) (i : Item) :
    k.bare.acceptsItem i.bare = k.acceptsItem i := by
  cases i with
  | node n => exact k.bare_accepts n
  | _ => rfl

mutual

theorem ItemType.hasInstance_bare : (t : ItemType) → (i : Item) →
    t.bare.hasInstance i.bare = t.hasInstance i
  | .item, i => by rw [ItemType.bare, ItemType.hasInstance_item, ItemType.hasInstance_item]
  | .atomic s, i => by
      rw [ItemType.bare, ItemType.atomic_hasInstance_eq, ItemType.atomic_hasInstance_eq,
        i.contentType_bare]
      exact ItemType.subtypeOf_bare i.contentType (.atomic s)
  | .node k, i => by
      rw [ItemType.bare, ItemType.node_hasInstance_eq, ItemType.node_hasInstance_eq, i.contentType_bare]
      exact ItemType.subtypeOf_bare i.contentType (.node k)
  | .function f, i => by
      rw [ItemType.bare, ItemType.function_hasInstance_eq, ItemType.function_hasInstance_eq,
        i.contentType_bare]
      exact ItemType.subtypeOf_bare i.contentType (.function f)
  | .map k v, i => by
      rw [ItemType.bare, Bool.eq_iff_iff, ItemType.map_hasInstance_iff, ItemType.map_hasInstance_iff]
      cases i with
      | map entries =>
          have hvalue := SeqType.hasInstance_bare v
          simp only [Item.bare, Item.map.injEq, exists_eq_left', Item.bareEntries_eq_map,
            List.forall_mem_map, hvalue]
      | _ => simp [Item.bare]
  | .array m, i => by
      rw [ItemType.bare, Bool.eq_iff_iff, ItemType.array_hasInstance_iff, ItemType.array_hasInstance_iff]
      cases i with
      | array members =>
          have hmember := SeqType.hasInstance_bare m
          simp only [Item.bare, Item.array.injEq, exists_eq_left', Item.bareMembers_eq_map,
            List.forall_mem_map, hmember]
      | _ => simp [Item.bare]

/-- A sequence is an instance of a type whatever the prefixes of names in both. -/
theorem SeqType.hasInstance_bare : (s : SeqType) → (v : Sequence) →
    s.bare.hasInstance (Sequence.bare v) = s.hasInstance v
  | .empty, v => by cases v <;> rfl
  | .of t o k h, v => by
      have hitem : ∀ i, (SeqType.of t o k h).bare.hasItem i.bare = (SeqType.of t o k h).hasItem i := by
        intro i
        have htest : (k.map KindTest.bare).all (·.acceptsItem i.bare) = k.all (·.acceptsItem i) := by
          cases k with
          | none => rfl
          | some k => exact k.bare_acceptsItem i
        simp only [SeqType.bare, SeqType.hasItem, SeqType.itemType, SeqType.test?,
          ItemType.hasInstance_bare t i, htest]
      rw [Bool.eq_iff_iff, SeqType.hasInstance_iff, SeqType.hasInstance_iff, Sequence.length_bare,
        Sequence.bare_eq_map, SeqType.occurrence_bare, List.forall_mem_map]
      simp only [hitem]

end

namespace SeqType

theorem couldBe_bare (s : SeqType) (t : AtomicType) : s.bare.couldBe t = s.couldBe t := by
  have h := ItemType.intersect?_bare s.itemType (.atomic t)
  rw [ItemType.bare] at h
  rw [couldBe, couldBe, s.itemType_bare, h, Option.isSome_map]

theorem promotable_bare (s target : SeqType) : s.bare.promotable target.bare = s.promotable target := by
  have huntyped : s.itemType.bare.isUntyped = s.itemType.isUntyped := by cases s.itemType <;> rfl
  unfold promotable
  rw [intersect?_bare, Option.isSome_map, s.occurrence_bare, target.occurrence_bare, s.itemType_bare,
    target.itemType_bare, huntyped, s.itemType.isFunction_bare]
  simp only [couldBe_bare]
  cases target.itemType <;> rfl

end SeqType
end SequenceTypes
