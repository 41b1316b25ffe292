import SequenceTypes.Proofs.InstanceCheck

/-! What the static type of a sequence covers. It is folded by union from the runtime types of the items.
A union of function types need not cover both of them: it takes the intersection of their parameters, and
an intersection need not lie below both. The types of atomic values and nodes, and those of all maps and of
all arrays, stay covered whatever is united with them. -/

namespace SequenceTypes

theorem AtomicType.subtypeOf_union? {a b c : AtomicType} (h : a.union? b = some c) :
    a.subtypeOf c ∧ b.subtypeOf c :=
  ⟨subtypeOf_iff_mem.2 (List.mem_of_find?_eq_some h), List.find?_some h⟩

namespace ItemType

theorem union_of_subtypeOf {a b : ItemType} (hab : a.subtypeOf b) : a.union b = b := by
  rw [union.eq_def, if_pos hab]

theorem union_of_supertype {a b : ItemType} (hab : ¬a.subtypeOf b) (hba : b.subtypeOf a) :
    a.union b = a := by
  rw [union.eq_def, if_neg hab, if_pos hba]

theorem item_union (b : ItemType) : item.union b = item := by
  by_cases hb : b = item
  · rw [hb, union_of_subtypeOf (subtypeOf_item item)]
  · exact union_of_supertype (fun h => hb (item_subtypeOf_iff.1 h)) (subtypeOf_item b)

end ItemType

namespace SeqType

/-- The type of all sequences: `item()*`. -/
def anyItems : SeqType := of .item .zeroMore none Occurrence.zeroMore_ne_zero

@[simp] theorem subtypeOf_anyItems (s : SeqType) : s.subtypeOf anyItems = true := by
  cases s with
  | empty => exact empty_subtypeOf_iff.2 rfl
  | of t o k h =>
      refine of_subtypeOf_iff.2 ⟨_, _, _, _, rfl, t.subtypeOf_item, ?_, rfl⟩
      cases o <;> rfl

theorem anyItems_subtypeOf_iff {s : SeqType} : anyItems.subtypeOf s ↔ s = anyItems := by
  constructor
  · intro h
    obtain ⟨u, p, l, hp, rfl, hu, hop, hkl⟩ := of_subtypeOf_iff.1 h
    obtain rfl := ItemType.item_subtypeOf_iff.1 hu
    obtain rfl := testsOverlap_none_left hkl
    cases p with
    | zeroMore => rfl
    | _ => simp [Occurrence.subtypeOf, Occurrence.lower, Occurrence.upper?, Occurrence.boundLe] at hop
  · rintro rfl
    exact subtypeOf_refl _

theorem anyItems_union (s : SeqType) : anyItems.union s = anyItems := by
  cases s with
  | empty => rw [anyItems, union]; rfl
  | of u p l hp =>
      have hocc : Occurrence.zeroMore.union p = .zeroMore := by cases p <;> rfl
      rw [anyItems, union, hocc, ItemType.item_union]
      split <;> rfl

theorem union_anyItems (s : SeqType) : s.union anyItems = anyItems := by
  cases s with
  | empty => rw [anyItems, union]; rfl
  | of t o k h =>
      have hocc : o.union .zeroMore = .zeroMore := by cases o <;> rfl
      rw [anyItems, union, hocc, ItemType.union_of_subtypeOf t.subtypeOf_item]
      split
      · next heq =>
          have ht : t = .item := by cases t <;> simp_all [BEq.beq, ItemType.beq]
          rw [ht]
          cases k <;> rfl
      · rfl

end SeqType

/-! ### Lookup functions in unions

The lookup functions of all maps and of all arrays take one atomic value and return anything. What is
intersected with an atomic type stays atomic, so that such a function stays covered by unions. -/

namespace ItemType

theorem atomic_of_intersect? {a : AtomicType} {x y t : ItemType} (hxy : x = atomic a ∨ y = atomic a)
    (h : x.intersect? y = some t) : ∃ b, t = atomic b ∧ b.subtypeOf a := by
  rw [intersect?.eq_def] at h
  split at h
  · next hab =>
      cases h
      rcases hxy with rfl | rfl
      · exact ⟨a, rfl, a.subtypeOf_refl⟩
      · exact subtypeOf_atomic_iff.1 hab
  next hab =>
  split at h
  · next hba =>
      cases h
      rcases hxy with rfl | rfl
      · exact subtypeOf_atomic_iff.1 hba
      · exact ⟨a, rfl, a.subtypeOf_refl⟩
  next hba =>
  split at h
  · rw [subtypeOf] at hab hba
    simp [AtomicType.intersect?, hab, hba] at h
  all_goals simp at hxy h

end ItemType

namespace SeqType

theorem subtypeOf_single_atomic_iff {s : SeqType} {a : AtomicType} :
    s.subtypeOf (ItemType.atomic a).single ↔
      ∃ b k, s = of (.atomic b) .one k (by decide) ∧ b.subtypeOf a := by
  constructor
  · intro h
    cases s with
    | empty => cases empty_subtypeOf_iff.1 h
    | of t o k ho =>
        obtain ⟨u, p, l, hp, heq, htu, hop, _⟩ := of_subtypeOf_iff.1 h
        cases heq
        obtain ⟨b, rfl, hb⟩ := ItemType.subtypeOf_atomic_iff.1 htu
        cases o with
        | one => exact ⟨b, k, rfl, hb⟩
        | zero => exact absurd rfl ho
        | _ => simp [Occurrence.subtypeOf, Occurrence.lower, Occurrence.upper?, Occurrence.boundLe] at hop
  · rintro ⟨b, k, rfl, hb⟩
    exact of_subtypeOf_iff.2 ⟨_, _, _, _, rfl, ItemType.subtypeOf_atomic_iff.2 ⟨b, rfl, hb⟩, rfl, rfl⟩

/-- An intersection with a type of single atomic values lies below it. -/
theorem intersect?_subtypeOf_single_atomic {q u m : SeqType} {a : AtomicType}
    (hq : q.subtypeOf (ItemType.atomic a).single)
    (h : q.intersect? u = some m ∨ u.intersect? q = some m) :
    m.subtypeOf (ItemType.atomic a).single := by
  obtain ⟨b, k, rfl, hb⟩ := subtypeOf_single_atomic_iff.1 hq
  have hparts : ∃ c l, m = make (.atomic c) .one l ∧ c.subtypeOf b := by
    rcases h with h | h
    all_goals
      rw [intersect?] at h
      obtain ⟨o, ho, h⟩ := Option.bind_eq_some_iff.1 h
      obtain ⟨t, ht, h⟩ := Option.bind_eq_some_iff.1 h
      obtain ⟨l, _, rfl⟩ := Option.map_eq_some_iff.1 h
      have hone : o = .one := by
        cases hu : u.occurrence <;> rw [hu] at ho <;> cases ho <;> rfl
      subst hone
    · obtain ⟨c, rfl, hc⟩ := ItemType.atomic_of_intersect? (Or.inl rfl) ht
      exact ⟨c, l, rfl, hc⟩
    · obtain ⟨c, rfl, hc⟩ := ItemType.atomic_of_intersect? (Or.inr rfl) ht
      exact ⟨c, l, rfl, hc⟩
  obtain ⟨c, l, rfl, hc⟩ := hparts
  exact subtypeOf_single_atomic_iff.2 ⟨c, l, rfl, AtomicType.subtypeOf_trans hc hb⟩

theorem intersectAll?_single {q : SeqType} {us params : List SeqType}
    (h : intersectAll? [q] us = some params ∨ intersectAll? us [q] = some params) :
    ∃ m u, params = [m] ∧ (q.intersect? u = some m ∨ u.intersect? q = some m) := by
  rcases h with h | h
  all_goals
    cases us with
    | nil => simp [intersectAll?] at h
    | cons u us =>
        rw [intersectAll?] at h
        obtain ⟨m, hm, h⟩ := Option.bind_eq_some_iff.1 h
        obtain ⟨ms, hms, rfl⟩ := Option.map_eq_some_iff.1 h
        cases us with
        | cons u' us => simp [intersectAll?] at hms
        | nil =>
            rw [intersectAll?] at hms
            cases hms
            refine ⟨m, u, rfl, ?_⟩
            simp only [hm, true_or, or_true]

end SeqType

namespace FunctionType

/-- The function from single values of an atomic type to anything. -/
def ofAtomic (a : AtomicType) : FunctionType := .of [(ItemType.atomic a).single] .anyItems

theorem ofAtomic_subtypeOf_iff {a : AtomicType} {f : FunctionType} :
    (ofAtomic a).subtypeOf f ↔
      f = any ∨ ∃ q, f = of [q] .anyItems ∧ q.subtypeOf (ItemType.atomic a).single := by
  rw [ofAtomic, of_subtypeOf_iff]
  refine or_congr_right ⟨?_, ?_⟩
  · rintro ⟨qs, s, rfl, hqs, hs⟩
    cases qs with
    | nil => simp [SeqType.subtypeOfAll] at hqs
    | cons q qs =>
        obtain ⟨p, ps, heq, hq, hrest⟩ := SeqType.cons_subtypeOfAll_iff.1 hqs
        cases heq
        cases qs with
        | nil => exact ⟨q, by rw [SeqType.anyItems_subtypeOf_iff.1 hs], hq⟩
        | cons q' qs => simp [SeqType.subtypeOfAll] at hrest
  · rintro ⟨q, rfl, hq⟩
    exact ⟨[q], .anyItems, rfl, by simp [SeqType.subtypeOfAll, hq], SeqType.subtypeOf_refl _⟩

/-- Such a function stays covered in every union. -/
theorem ofAtomic_subtypeOf_union {a : AtomicType} {f g : FunctionType}
    (h : (ofAtomic a).subtypeOf f ∨ (ofAtomic a).subtypeOf g) : (ofAtomic a).subtypeOf (f.union g) := by
  cases f with
  | any =>
      rw [union.eq_def]
      exact subtypeOf_any _
  | of ps r =>
      cases g with
      | any =>
          rw [union.eq_def]
          exact subtypeOf_any _
      | of us s =>
          rw [union]
          cases hparams : SeqType.intersectAll? ps us with
          | none => exact subtypeOf_any _
          | some params =>
              rcases h with h | h
              · obtain ⟨q, heq, hq⟩ := (ofAtomic_subtypeOf_iff.1 h).resolve_left (by simp)
                cases heq
                obtain ⟨m, u, rfl, hm⟩ := SeqType.intersectAll?_single (Or.inl hparams)
                rw [SeqType.anyItems_union]
                exact ofAtomic_subtypeOf_iff.2
                  (Or.inr ⟨m, rfl, SeqType.intersect?_subtypeOf_single_atomic hq hm⟩)
              · obtain ⟨q, heq, hq⟩ := (ofAtomic_subtypeOf_iff.1 h).resolve_left (by simp)
                cases heq
                obtain ⟨m, u, rfl, hm⟩ := SeqType.intersectAll?_single (Or.inr hparams)
                rw [SeqType.union_anyItems]
                exact ofAtomic_subtypeOf_iff.2
                  (Or.inr ⟨m, rfl, SeqType.intersect?_subtypeOf_single_atomic hq hm⟩)

end FunctionType

namespace ItemType

theorem anyMap_subtypeOf_map_iff {k : AtomicType} {v : SeqType} :
    anyMap.subtypeOf (map k v) ↔ k = .anyAtomic ∧ v = .anyItems := by
  have hkey : AtomicType.anyAtomic.subtypeOf k ↔ k = .anyAtomic := by cases k <;> decide
  rw [anyMap, subtypeOf, Bool.and_eq_true, hkey, ← SeqType.anyItems_subtypeOf_iff]
  rfl

theorem anyArray_subtypeOf_array_iff {m : SeqType} : anyArray.subtypeOf (array m) ↔ m = .anyItems := by
  rw [anyArray, subtypeOf, ← SeqType.anyItems_subtypeOf_iff]
  rfl

/-- The types of atomic values and nodes, and the types of all maps and of all arrays: what the runtime
type of an item can be if the item is no function with a type of its own. -/
inductive Ground : ItemType → Prop where
  | atomic (t : AtomicType) : Ground (.atomic t)
  | node (k : NodeKind) : Ground (.node k)
  | map : Ground .anyMap
  | array : Ground .anyArray

namespace Ground

variable {g x y : ItemType}

theorem testFree (hg : Ground g) : g.within .testFree := by
  cases hg <;> rfl

/-- The union of types of different sorts: all functions, or all items. -/
theorem subtypeOf_apart (hg : x.isFunction → y.isFunction → g.isFunction) :
    g.subtypeOf (if x.isFunction && y.isFunction then .function .any else .item) := by
  split
  · next hboth =>
      rw [Bool.and_eq_true] at hboth
      exact subtypeOf_any_of_isFunction (hg hboth.1 hboth.2)
  · exact subtypeOf_item g

/-- What covers a ground type covers it in every union. -/
theorem subtypeOf_union (hg : Ground g) (h : g.subtypeOf x ∨ g.subtypeOf y) : g.subtypeOf (x.union y) := by
  by_cases hxy : x.subtypeOf y
  · rw [union_of_subtypeOf hxy]
    rcases h with hx | hy
    · exact subtypeOf_trans (Or.inl hg.testFree) hx hxy
    · exact hy
  by_cases hyx : y.subtypeOf x
  · rw [union_of_supertype hxy hyx]
    rcases h with hx | hy
    · exact hx
    · exact subtypeOf_trans (Or.inl hg.testFree) hy hyx
  rw [union.eq_def, if_neg hxy, if_neg hyx]
  split
  · next s t =>
      cases hu : s.union? t with
      | none => exact subtypeOf_item g
      | some u =>
          obtain ⟨hs, ht⟩ := AtomicType.subtypeOf_union? hu
          rcases h with h | h
          all_goals obtain ⟨r, rfl, hr⟩ := subtypeOf_atomic_iff.1 h
          · exact subtypeOf_atomic_iff.2 ⟨r, rfl, AtomicType.subtypeOf_trans hr hs⟩
          · exact subtypeOf_atomic_iff.2 ⟨r, rfl, AtomicType.subtypeOf_trans hr ht⟩
  · obtain ⟨j, rfl⟩ : ∃ j, g = .node j := by
      rcases h with h | h
      all_goals
        obtain ⟨j, rfl, _⟩ := subtypeOf_node_iff.1 h
        exact ⟨j, rfl⟩
    exact subtypeOf_node_iff.2 ⟨j, rfl, rfl⟩
  · next k v l w =>
      cases hg with
      | atomic _ | node _ | array => simp [anyArray, subtypeOf] at h
      | map =>
          simp only [anyMap_subtypeOf_map_iff] at h ⊢
          rcases h with ⟨rfl, rfl⟩ | ⟨rfl, rfl⟩
          · exact ⟨by cases l <;> rfl, SeqType.anyItems_union w⟩
          · exact ⟨by cases k <;> rfl, v.union_anyItems⟩
  · next m n =>
      cases hg with
      | atomic _ | node _ | map => simp [anyMap, subtypeOf] at h
      | array =>
          simp only [anyArray_subtypeOf_array_iff] at h ⊢
          rcases h with rfl | rfl
          · exact SeqType.anyItems_union n
          · exact m.union_anyItems
  · cases hg with
    | atomic _ | node _ => simp [subtypeOf] at h
    | map | array =>
        simp only [anyMap, anyArray, subtypeOf] at h ⊢
        exact FunctionType.ofAtomic_subtypeOf_union h
  · refine subtypeOf_apart fun hx hy => ?_
    rcases h with h | h
    · exact isFunction_of_subtypeOf hx h
    · exact isFunction_of_subtypeOf hy h

end Ground
end ItemType

theorem Item.ground_runtimeType {i : Item} (hi : i.functionType? = none) : i.runtimeType.Ground := by
  cases i with
  | atomic a => exact .atomic a.type
  | node n => exact .node n.kind
  | map _ => exact .map
  | array _ => exact .array
  | function _ _ _ | coerced _ _ => simp [functionType?] at hi

theorem ItemType.Ground.subtypeOf_foldl_union {g t : ItemType} (hg : g.Ground) (ht : g.subtypeOf t)
    (v : Sequence) : g.subtypeOf (v.foldl (fun t i => t.union i.runtimeType) t) := by
  induction v generalizing t with
  | nil => exact ht
  | cons i v ih => exact ih (hg.subtypeOf_union (Or.inl ht))

theorem Item.runtimeType_subtypeOf_foldl_union {i : Item} (hi : i.functionType? = none) (t : ItemType)
    {v : Sequence} (hmem : i ∈ v) :
    i.runtimeType.subtypeOf (v.foldl (fun t i => t.union i.runtimeType) t) := by
  induction v generalizing t with
  | nil => cases hmem
  | cons j v ih =>
      rcases List.mem_cons.1 hmem with rfl | hmem
      · exact (ground_runtimeType hi).subtypeOf_foldl_union
          ((ground_runtimeType hi).subtypeOf_union (Or.inr (ItemType.subtypeOf_refl _))) v
      · exact ih _ hmem

/-- The static type of a sequence with items has the size of the sequence, no test, and an item type that
covers all items but functions with types of their own. -/
theorem Sequence.staticType_cons (first : Item) (rest : Sequence) :
    ∃ t h, staticType (first :: rest) = .of t (.ofSize (some (rest.length + 1))) none h ∧
      ∀ i ∈ first :: rest, i.functionType? = none → i.runtimeType.subtypeOf t := by
  have hsize : Occurrence.ofSize (some (rest.length + 1)) ≠ .zero := by
    cases rest <;> simp [Occurrence.ofSize]
  rw [staticType]
  simp only [SeqType.make, hsize, dite_false]
  refine ⟨_, hsize, rfl, fun i hi hfun => ?_⟩
  split
  · next hhom =>
      obtain ⟨a, rfl, hrest⟩ := isHomogeneous_cons hhom
      rcases List.mem_cons.1 hi with rfl | hi
      · exact ItemType.subtypeOf_refl _
      · obtain ⟨b, rfl, hb⟩ := hrest i hi
        rw [Item.runtimeType, Item.runtimeType, hb]
        exact ItemType.subtypeOf_refl _
  · rcases List.mem_cons.1 hi with rfl | hi
    · exact (Item.ground_runtimeType hfun).subtypeOf_foldl_union (ItemType.subtypeOf_refl _) rest
    · exact Item.runtimeType_subtypeOf_foldl_union hfun _ hi

end SequenceTypes
