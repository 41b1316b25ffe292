import SequenceTypes.Proofs.UnionBounds

/-! The laws that tie union and intersection to the order. Both operations compare their arguments first,
in one direction and then in the other, so that the order of the arguments shows where each is a subtype of
the other. Below a type that is free of tests the order is antisymmetric and such arguments are the same:
the operations are commutative, and of comparable types they choose the upper and the lower one. It is
enough that one of the two types is free of tests. -/

namespace SequenceTypes

namespace Occurrence

theorem union_comm (a b : Occurrence) : a.union b = b.union a := by
  cases a <;> cases b <;> rfl

theorem intersect?_comm (a b : Occurrence) : a.intersect? b = b.intersect? a := by
  cases a <;> cases b <;> rfl

theorem union_of_subtypeOf {a b : Occurrence} (hab : a.subtypeOf b) : a.union b = b := by
  apply subtypeOf_antisymm
  · exact union_subtypeOf_iff.2 ⟨hab, subtypeOf_refl b⟩
  · exact subtypeOf_union_right a b

theorem intersect?_of_subtypeOf {a b : Occurrence} (hab : a.subtypeOf b) : a.intersect? b = some a := by
  revert hab
  cases a <;> cases b <;> decide

end Occurrence

namespace AtomicType

theorem union?_comm (a b : AtomicType) : a.union? b = b.union? a := by
  cases hab : a.union? b with
  | none =>
      cases hba : b.union? a with
      | none => rfl
      | some d =>
          obtain ⟨hbd, had⟩ := subtypeOf_union? hba
          exact absurd hbd (not_subtypeOf_of_union?_none hab had)
  | some c =>
      obtain ⟨hac, hbc⟩ := subtypeOf_union? hab
      cases hba : b.union? a with
      | none => exact absurd hac (not_subtypeOf_of_union?_none hba hbc)
      | some d =>
          -- each is a common ancestor, and each is the closest one
          obtain ⟨hbd, had⟩ := subtypeOf_union? hba
          rw [subtypeOf_antisymm (union?_subtypeOf hab had hbd) (union?_subtypeOf hba hbc hac)]

theorem intersect?_comm (a b : AtomicType) : a.intersect? b = b.intersect? a := by
  unfold intersect?
  by_cases hab : a.subtypeOf b <;> by_cases hba : b.subtypeOf a
  · rw [subtypeOf_antisymm hab hba]
  · rw [if_pos hab, if_neg hba, if_pos hab]
  · rw [if_neg hab, if_pos hba, if_pos hba]
  · rw [if_neg hab, if_neg hba, if_neg hba, if_neg hab]

end AtomicType

namespace ItemType

variable {a b : ItemType}

theorem intersect?_of_subtypeOf (hab : a.subtypeOf b) : a.intersect? b = some a := by
  rw [intersect?.eq_def, if_pos hab]

theorem intersect?_of_supertype (hab : ¬a.subtypeOf b) (hba : b.subtypeOf a) :
    a.intersect? b = some b := by
  rw [intersect?.eq_def, if_neg hab, if_pos hba]

/-- Equality of types is identity where there are no names to be written with different prefixes. -/
theorem eq_of_beq_of_testFree (hfree : a.within .testFree ∨ b.within .testFree) (hab : a == b) :
    a = b := by
  obtain ⟨hsub, hsup⟩ := subtypeOf_of_beq hab
  rcases hfree with ha | hb
  · exact subtypeOf_antisymm ha hsub hsup
  · exact (subtypeOf_antisymm hb hsup hsub).symm

theorem beq_comm_of_testFree (ha : a.within .testFree) : (a == b) = (b == a) := by
  rw [Bool.eq_iff_iff]
  constructor
  · intro hab
    rw [eq_of_beq_of_testFree (Or.inl ha) hab]
    exact beq_self_eq_true b
  · intro hba
    rw [eq_of_beq_of_testFree (Or.inr ha) hba]
    exact beq_self_eq_true a

theorem union_comm_of_comparable (ha : a.within .testFree) (h : a.subtypeOf b ∨ b.subtypeOf a) :
    a.union b = b.union a := by
  by_cases hab : a.subtypeOf b
  · by_cases hba : b.subtypeOf a
    · rw [subtypeOf_antisymm ha hab hba]
    · rw [union_of_subtypeOf hab, union_of_supertype hba hab]
  · have hba := h.resolve_left hab
    rw [union_of_supertype hab hba, union_of_subtypeOf hba]

theorem intersect?_comm_of_comparable (ha : a.within .testFree) (h : a.subtypeOf b ∨ b.subtypeOf a) :
    a.intersect? b = b.intersect? a := by
  by_cases hab : a.subtypeOf b
  · by_cases hba : b.subtypeOf a
    · rw [subtypeOf_antisymm ha hab hba]
    · rw [intersect?_of_subtypeOf hab, intersect?_of_supertype hba hab]
  · have hba := h.resolve_left hab
    rw [intersect?_of_supertype hab hba, intersect?_of_subtypeOf hba]

end ItemType

/-! ### Commutativity

Shown for all types up to a weight, with a lemma for each sort of type. Only types that are not comparable
get into the case tables of the operations, and the rows of these are symmetric. -/

/-- Commutativity for item types of a total weight below `n`, the first of which is free of tests. -/
structure CommBelow (n : Nat) : Prop where
  union : ∀ a b : ItemType, a.weight + b.weight < n → a.within .testFree → a.union b = b.union a
  intersect : ∀ a b : ItemType, a.weight + b.weight < n → a.within .testFree →
    a.intersect? b = b.intersect? a

namespace CommBelow

variable {n : Nat}

theorem seq_union (ih : CommBelow n) {a b : SeqType} (hn : a.weight + b.weight ≤ n)
    (ha : a.within .testFree) : a.union b = b.union a := by
  cases a with
  | empty =>
      cases b with
      | empty => rfl
      | of u p l hp => rw [SeqType.union, SeqType.union, Occurrence.union_comm]; rfl
  | of t o k ho =>
      cases b with
      | empty => rw [SeqType.union, SeqType.union, Occurrence.union_comm]; rfl
      | of u p l hp =>
          simp only [SeqType.within, Fragment.testFree_test, Bool.and_eq_true,
            Option.isNone_iff_eq_none] at ha
          obtain ⟨rfl, ht⟩ := ha
          simp only [SeqType.weight] at hn
          have hitems := ih.union t u (by omega) ht
          rw [SeqType.union, SeqType.union, Occurrence.union_comm, hitems,
            ← ItemType.beq_comm_of_testFree ht]
          by_cases htu : t == u
          · rw [if_pos htu, if_pos htu, ItemType.eq_of_beq_of_testFree (Or.inl ht) htu]
            cases l <;> rfl
          · rw [if_neg htu, if_neg htu]

theorem seq_intersect (ih : CommBelow n) {a b : SeqType} (hn : a.weight + b.weight ≤ n)
    (ha : a.within .testFree) : a.intersect? b = b.intersect? a := by
  have hwa := a.itemType_weight_lt
  have hwb := b.itemType_weight_lt
  have hitems := ih.intersect a.itemType b.itemType (by omega) (SeqType.itemType_within rfl ha)
  have htests : mergeTests? a.test? b.test? = mergeTests? b.test? a.test? := by
    rw [SeqType.test?_eq_none_of_within rfl ha]
    cases b.test? <;> rfl
  rw [SeqType.intersect?, SeqType.intersect?, Occurrence.intersect?_comm, hitems, htests]

theorem all_union (ih : CommBelow n) {ps qs : List SeqType}
    (hn : SeqType.weightAll ps + SeqType.weightAll qs ≤ n) (hps : SeqType.allWithin .testFree ps) :
    SeqType.unionAll? ps qs = SeqType.unionAll? qs ps := by
  induction ps generalizing qs with
  | nil => cases qs <;> simp [SeqType.unionAll?]
  | cons p ps ihps =>
      cases qs with
      | nil => simp [SeqType.unionAll?]
      | cons q qs =>
          simp only [SeqType.allWithin, Bool.and_eq_true] at hps
          simp only [SeqType.weightAll] at hn
          rw [SeqType.unionAll?, SeqType.unionAll?, ih.seq_union (by omega) hps.1,
            ihps (by omega) hps.2]

theorem all_intersect (ih : CommBelow n) {ps qs : List SeqType}
    (hn : SeqType.weightAll ps + SeqType.weightAll qs ≤ n) (hps : SeqType.allWithin .testFree ps) :
    SeqType.intersectAll? ps qs = SeqType.intersectAll? qs ps := by
  induction ps generalizing qs with
  | nil => cases qs <;> simp [SeqType.intersectAll?]
  | cons p ps ihps =>
      cases qs with
      | nil => simp [SeqType.intersectAll?]
      | cons q qs =>
          simp only [SeqType.allWithin, Bool.and_eq_true] at hps
          simp only [SeqType.weightAll] at hn
          rw [SeqType.intersectAll?, SeqType.intersectAll?, ih.seq_intersect (by omega) hps.1,
            ihps (by omega) hps.2]

theorem function_union (ih : CommBelow n) {f g : FunctionType} (hn : f.weight + g.weight ≤ n)
    (hf : f.within .testFree) : f.union g = g.union f := by
  cases f with
  | any => cases g <;> simp [FunctionType.union]
  | of ps r =>
      cases g with
      | any => simp [FunctionType.union]
      | of qs s =>
          simp only [FunctionType.within, Bool.and_eq_true] at hf
          simp only [FunctionType.weight] at hn
          rw [FunctionType.union, FunctionType.union, ih.all_intersect (by omega) hf.1,
            ih.seq_union (by omega) hf.2]

theorem function_intersect (ih : CommBelow n) {f g : FunctionType} (hn : f.weight + g.weight ≤ n)
    (hf : f.within .testFree) : f.intersect? g = g.intersect? f := by
  cases f with
  | any => cases g <;> simp [FunctionType.intersect?]
  | of ps r =>
      cases g with
      | any => simp [FunctionType.intersect?]
      | of qs s =>
          simp only [FunctionType.within, Bool.and_eq_true] at hf
          simp only [FunctionType.weight] at hn
          rw [FunctionType.intersect?, FunctionType.intersect?, ih.all_union (by omega) hf.1,
            ih.seq_intersect (by omega) hf.2]

theorem item_union (ih : CommBelow n) {a b : ItemType} (hn : a.weight + b.weight ≤ n)
    (ha : a.within .testFree) : a.union b = b.union a := by
  by_cases h : a.subtypeOf b ∨ b.subtypeOf a
  · exact ItemType.union_comm_of_comparable ha h
  obtain ⟨hab, hba⟩ := not_or.1 h
  rw [ItemType.union.eq_def, if_neg hab, if_neg hba, ItemType.union.eq_def b a, if_neg hba, if_neg hab]
  cases a with
  | item | node _ => cases b <;> rfl
  | atomic s =>
      cases b with
      | atomic t => simp only [AtomicType.union?_comm s t]
      | _ => rfl
  | function f =>
      cases b with
      | function g =>
          simp only [ItemType.weight] at hn
          have hfg := ih.function_union (g := g) (by omega) (ItemType.within_function_iff.1 ha).2
          simp only [hfg]
      | _ => rfl
  | map k v =>
      cases b with
      | map l w =>
          simp only [ItemType.weight] at hn
          have hvw := ih.seq_union (b := w) (by omega) (ItemType.within_map_iff.1 ha).2
          simp only [AtomicType.union?_comm k l, hvw]
      | _ => rfl
  | array m =>
      cases b with
      | array o =>
          simp only [ItemType.weight] at hn
          have hmo := ih.seq_union (b := o) (by omega) (ItemType.within_array_iff.1 ha).2
          simp only [hmo]
      | _ => rfl

theorem item_intersect (ih : CommBelow n) {a b : ItemType} (hn : a.weight + b.weight ≤ n)
    (ha : a.within .testFree) : a.intersect? b = b.intersect? a := by
  by_cases h : a.subtypeOf b ∨ b.subtypeOf a
  · exact ItemType.intersect?_comm_of_comparable ha h
  obtain ⟨hab, hba⟩ := not_or.1 h
  rw [ItemType.intersect?.eq_def, if_neg hab, if_neg hba, ItemType.intersect?.eq_def b a, if_neg hba,
    if_neg hab]
  cases a with
  | item | node _ => cases b <;> rfl
  | atomic s =>
      cases b with
      | atomic t => simp only [AtomicType.intersect?_comm s t]
      | _ => rfl
  | function f =>
      cases b with
      | function g =>
          simp only [ItemType.weight] at hn
          have hfg := ih.function_intersect (g := g) (by omega) (ItemType.within_function_iff.1 ha).2
          simp only [hfg]
      | _ => rfl
  | map k v =>
      cases b with
      | map l w =>
          simp only [ItemType.weight] at hn
          have hvw := ih.seq_intersect (b := w) (by omega) (ItemType.within_map_iff.1 ha).2
          simp only [AtomicType.intersect?_comm k l, hvw]
      | _ => rfl
  | array m =>
      cases b with
      | array o =>
          simp only [ItemType.weight] at hn
          have hmo := ih.seq_intersect (b := o) (by omega) (ItemType.within_array_iff.1 ha).2
          simp only [hmo]
      | _ => rfl

end CommBelow

theorem commBelow (n : Nat) : CommBelow n := by
  induction n with
  | zero =>
      exact ⟨fun _ _ hn => absurd hn (Nat.not_lt_zero _), fun _ _ hn => absurd hn (Nat.not_lt_zero _)⟩
  | succ n ih =>
      exact ⟨fun _ _ hn => ih.item_union (Nat.le_of_lt_succ hn),
        fun _ _ hn => ih.item_intersect (Nat.le_of_lt_succ hn)⟩

namespace SeqType

variable {a b : SeqType}

theorem union_comm (hfree : a.within .testFree ∨ b.within .testFree) : a.union b = b.union a := by
  rcases hfree with ha | hb
  · exact (commBelow _).seq_union (Nat.le_refl _) ha
  · exact ((commBelow _).seq_union (Nat.le_refl _) hb).symm

theorem intersect?_comm (hfree : a.within .testFree ∨ b.within .testFree) :
    a.intersect? b = b.intersect? a := by
  rcases hfree with ha | hb
  · exact (commBelow _).seq_intersect (Nat.le_refl _) ha
  · exact ((commBelow _).seq_intersect (Nat.le_refl _) hb).symm

/-- A supertype has no test, if the types are comparable and one of them is free of tests. -/
theorem test?_eq_none_of_subtypeOf {t u : ItemType} {o p : Occurrence} {k l : Option KindTest}
    {ho : o ≠ .zero} {hp : p ≠ .zero}
    (hfree : (of t o k ho).within .testFree ∨ (of u p l hp).within .testFree)
    (hkl : testsOverlap k l) : l = none := by
  rcases hfree with ha | hb
  · have hk : k = none := test?_eq_none_of_within rfl ha
    rw [hk] at hkl
    exact testsOverlap_none_left hkl
  · exact test?_eq_none_of_within rfl hb

/-- The union with a supertype is the supertype. -/
theorem union_of_subtypeOf (hfree : a.within .testFree ∨ b.within .testFree) (hab : a.subtypeOf b) :
    a.union b = b := by
  cases a with
  | empty =>
      have hlower := empty_subtypeOf_iff.1 hab
      have hocc := Occurrence.union_of_subtypeOf (Occurrence.zero_subtypeOf_iff.2 hlower)
      rw [union, hocc]
      cases b with
      | empty => rfl
      | of u p l hp => exact make_of_ne_zero u l hp
  | of t o k ho =>
      obtain ⟨u, p, l, hp, rfl, htu, hop, hkl⟩ := of_subtypeOf_iff.1 hab
      obtain rfl := test?_eq_none_of_subtypeOf hfree hkl
      rw [union, Occurrence.union_of_subtypeOf hop, ItemType.union_of_subtypeOf htu]
      split
      · next heq =>
          have hitems : t.within .testFree ∨ u.within .testFree :=
            hfree.imp (itemType_within rfl) (itemType_within rfl)
          rw [ItemType.eq_of_beq_of_testFree hitems heq]
          cases k <;> exact make_of_ne_zero u none hp
      · exact make_of_ne_zero u none hp

/-- The intersection with a supertype is the type itself. -/
theorem intersect?_of_subtypeOf (hfree : a.within .testFree ∨ b.within .testFree)
    (hab : a.subtypeOf b) : a.intersect? b = some a := by
  cases a with
  | empty =>
      have hlower := empty_subtypeOf_iff.1 hab
      have hocc := Occurrence.intersect?_of_subtypeOf (Occurrence.zero_subtypeOf_iff.2 hlower)
      obtain ⟨t, ht⟩ := Option.isSome_iff_exists.1
        (ItemType.isSome_intersect?_of_comparable (Or.inr b.itemType.subtypeOf_item))
      exact intersect?_eq_some_iff.2 ⟨.zero, t, b.test?, hocc, ht, rfl, rfl⟩
  | of t o k ho =>
      obtain ⟨u, p, l, hp, rfl, htu, hop, hkl⟩ := of_subtypeOf_iff.1 hab
      obtain rfl := test?_eq_none_of_subtypeOf hfree hkl
      refine intersect?_eq_some_iff.2 ⟨o, t, k, ?_, ?_, ?_, ?_⟩
      · exact Occurrence.intersect?_of_subtypeOf hop
      · exact ItemType.intersect?_of_subtypeOf htu
      · cases k <;> rfl
      · exact (make_of_ne_zero t k ho).symm

/-- Union and intersection do not depend on the order of the types, one of which is free of tests, and of
a type and a supertype they are the supertype and the type. -/
theorem union_intersect_agree_with_order (hfree : a.within .testFree ∨ b.within .testFree) :
    a.union b == b.union a ∧ a.intersect? b == b.intersect? a ∧
      (a.subtypeOf b → a.union b == b ∧ a.intersect? b == some a) := by
  refine ⟨?_, ?_, fun hab => ⟨?_, ?_⟩⟩
  · rw [union_comm hfree]
    exact beq_self_eq_true _
  · rw [intersect?_comm hfree]
    exact beq_self_eq_true _
  · rw [union_of_subtypeOf hfree hab]
    exact beq_self_eq_true b
  · rw [intersect?_of_subtypeOf hfree hab]
    exact beq_self_eq_true (some a)

/-- A function on maps and one on functions, whose union and intersection go through the parameters, and
maps of integers as one-place functions. -/
theorem union_intersect_of_functions :
    let onMap : SeqType := of (.function (.of
      [(ItemType.map .integer (ItemType.atomic .integer).single).single] (ItemType.atomic .string).single))
      .oneMore none (by decide)
    let onFunction : SeqType := of (.function (.of
      [(ItemType.function (.of [(ItemType.atomic .string).single]
        (ItemType.atomic .string).single)).single] (ItemType.atomic .token).single))
      .zeroOne none (by decide)
    let maps : SeqType := of (.map .integer (ItemType.atomic .integer).single) .oneMore none (by decide)
    let lookups : SeqType := of (.function (.of [(ItemType.atomic .string).single]
      (of (.atomic .decimal) .zeroMore none (by decide)))) .zeroMore none (by decide)
    onMap.within .testFree ∧ maps.within .testFree ∧ maps.subtypeOf lookups ∧
      onMap.union onFunction == onFunction.union onMap ∧
      onMap.intersect? onFunction == onFunction.intersect? onMap ∧
      maps.union lookups == lookups ∧ maps.intersect? lookups == some maps := by
  intro onMap onFunction maps lookups
  have hfunctions := union_intersect_agree_with_order (a := onMap) (b := onFunction) (Or.inl (by decide))
  have hmaps := union_intersect_agree_with_order (a := maps) (b := lookups) (Or.inl (by decide))
  have hsub : maps.subtypeOf lookups := by decide +kernel
  exact ⟨by decide, by decide, hsub, hfunctions.1, hfunctions.2.1, hmaps.2.2 hsub⟩

end SeqType
end SequenceTypes
