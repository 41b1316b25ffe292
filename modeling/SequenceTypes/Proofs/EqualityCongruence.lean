import SequenceTypes.Proofs.ValueErasure

/-! Equality of types as a congruence. Equality is an equivalence, and two types are equal exactly if they
give the same data for a hash, so a table keyed by types finds an entry under every way to write its key.
All operations answer alike on equal types. -/

namespace SequenceTypes

theorem Occurrence.ctorIdx_injective : Function.Injective Occurrence.ctorIdx :=
  Function.LeftInverse.injective Occurrence.ofNat_ctorIdx

theorem AtomicType.ctorIdx_injective : Function.Injective AtomicType.ctorIdx :=
  Function.LeftInverse.injective AtomicType.ofNat_ctorIdx

theorem NodeKind.ctorIdx_injective : Function.Injective NodeKind.ctorIdx :=
  Function.LeftInverse.injective NodeKind.ofNat_ctorIdx

section

variable {x y : List HashPiece}

theorem QName.hashData_cancel {a b : QName} (h : a.hashData ++ x = b.hashData ++ y) :
    a.bare = b.bare ∧ x = y := by
  obtain ⟨⟨uri, l⟩, p⟩ := a
  obtain ⟨⟨uri', l'⟩, q⟩ := b
  cases uri <;> cases uri' <;> simp_all [hashData, bare]

theorem NameTest.hashData_cancel {s t : NameTest} (h : s.hashData ++ x = t.hashData ++ y) :
    s.bare = t.bare ∧ x = y := by
  cases s with
  | name a =>
      cases t with
      | name b =>
          obtain ⟨hname, hrest⟩ := QName.hashData_cancel (List.cons.inj h).2
          exact ⟨congrArg name hname, hrest⟩
      | _ => simp [hashData] at h
  | inNamespace a => cases t <;> simp_all [hashData, bare]
  | localName a => cases t <;> simp_all [hashData, bare]

theorem KindTest.hashData_cancel {k l : KindTest} (h : k.hashData ++ x = l.hashData ++ y) :
    k.bare = l.bare ∧ x = y := by
  obtain ⟨hkind, hnames⟩ := List.cons.inj h
  obtain ⟨hnames, hrest⟩ := NameTest.hashData_cancel hnames
  refine ⟨?_, hrest⟩
  rw [bare, bare, NodeKind.ctorIdx_injective (HashPiece.number.inj hkind), hnames]

theorem testHashData_cancel {k l : Option KindTest} (h : testHashData k ++ x = testHashData l ++ y) :
    k.map KindTest.bare = l.map KindTest.bare ∧ x = y := by
  cases k with
  | none =>
      cases l with
      | none => exact ⟨rfl, (List.cons.inj h).2⟩
      | some l => simp [testHashData] at h
  | some k =>
      cases l with
      | none => simp [testHashData] at h
      | some l =>
          obtain ⟨htest, hrest⟩ := KindTest.hashData_cancel (List.cons.inj h).2
          exact ⟨congrArg some htest, hrest⟩

end

-- The data of a type ends where the type does: what follows it is the same after equal types.
mutual

theorem ItemType.hashData_cancel {x y : List HashPiece} : {t u : ItemType} →
    t.hashData ++ x = u.hashData ++ y → t.bare = u.bare ∧ x = y
  | .item, u, h => by
      cases u <;> simp_all [ItemType.hashData, ItemType.bare]
  | .atomic s, u, h => by
      cases u with
      | atomic t =>
          simp only [ItemType.hashData, List.cons_append, List.nil_append, List.cons.injEq,
            HashPiece.number.injEq] at h
          obtain ⟨-, htype, hrest⟩ := h
          exact ⟨by rw [AtomicType.ctorIdx_injective htype], hrest⟩
      | _ => simp [ItemType.hashData] at h
  | .node j, u, h => by
      cases u with
      | node k =>
          simp only [ItemType.hashData, List.cons_append, List.nil_append, List.cons.injEq,
            HashPiece.number.injEq] at h
          obtain ⟨-, hkind, hrest⟩ := h
          exact ⟨by rw [NodeKind.ctorIdx_injective hkind], hrest⟩
      | _ => simp [ItemType.hashData] at h
  | .function f, u, h => by
      cases u with
      | function g =>
          simp only [ItemType.hashData, List.cons_append, List.cons.injEq, true_and] at h
          obtain ⟨hfunction, hrest⟩ := FunctionType.hashData_cancel h
          exact ⟨by rw [ItemType.bare, ItemType.bare, hfunction], hrest⟩
      | _ => simp [ItemType.hashData] at h
  | .map k v, u, h => by
      cases u with
      | map l w =>
          simp only [ItemType.hashData, List.cons_append, List.cons.injEq, HashPiece.number.injEq,
            true_and] at h
          obtain ⟨hkey, h⟩ := h
          obtain ⟨hvalue, hrest⟩ := SeqType.hashData_cancel h
          exact ⟨by rw [ItemType.bare, ItemType.bare, AtomicType.ctorIdx_injective hkey, hvalue], hrest⟩
      | _ => simp [ItemType.hashData] at h
  | .array m, u, h => by
      cases u with
      | array n =>
          simp only [ItemType.hashData, List.cons_append, List.cons.injEq, true_and] at h
          obtain ⟨hmember, hrest⟩ := SeqType.hashData_cancel h
          exact ⟨by rw [ItemType.bare, ItemType.bare, hmember], hrest⟩
      | _ => simp [ItemType.hashData] at h

theorem FunctionType.hashData_cancel {x y : List HashPiece} : {f g : FunctionType} →
    f.hashData ++ x = g.hashData ++ y → f.bare = g.bare ∧ x = y
  | .any, g, h => by
      cases g <;> simp_all [FunctionType.hashData, FunctionType.bare]
  | .of ps r, g, h => by
      cases g with
      | any => simp [FunctionType.hashData] at h
      | of qs s =>
          simp only [FunctionType.hashData, List.cons_append, List.append_assoc, List.cons.injEq,
            HashPiece.number.injEq, true_and] at h
          obtain ⟨hlength, h⟩ := h
          obtain ⟨hparams, h⟩ := SeqType.hashDataAll_cancel hlength h
          obtain ⟨hresult, hrest⟩ := SeqType.hashData_cancel h
          exact ⟨by rw [FunctionType.bare, FunctionType.bare, hparams, hresult], hrest⟩

theorem SeqType.hashData_cancel {x y : List HashPiece} : {a b : SeqType} →
    a.hashData ++ x = b.hashData ++ y → a.bare = b.bare ∧ x = y
  | .empty, b, h => by
      cases b with
      | empty => exact ⟨rfl, (List.cons.inj h).2⟩
      | of u p l hp =>
          obtain ⟨hoccurrence, -⟩ := List.cons.inj h
          exact absurd (Occurrence.ctorIdx_injective (HashPiece.number.inj hoccurrence)).symm hp
  | .of t o k ho, b, h => by
      cases b with
      | empty =>
          obtain ⟨hoccurrence, -⟩ := List.cons.inj h
          exact absurd (Occurrence.ctorIdx_injective (HashPiece.number.inj hoccurrence)) ho
      | of u p l hp =>
          simp only [SeqType.hashData, List.cons_append, List.append_assoc, List.cons.injEq,
            HashPiece.number.injEq] at h
          obtain ⟨hoccurrence, h⟩ := h
          obtain ⟨hitem, h⟩ := ItemType.hashData_cancel h
          obtain ⟨htest, hrest⟩ := testHashData_cancel h
          obtain rfl := Occurrence.ctorIdx_injective hoccurrence
          simp only [SeqType.bare, hitem, htest, hrest, and_self]

theorem SeqType.hashDataAll_cancel {x y : List HashPiece} : {ps qs : List SeqType} →
    ps.length = qs.length → SeqType.hashDataAll ps ++ x = SeqType.hashDataAll qs ++ y →
      SeqType.bareAll ps = SeqType.bareAll qs ∧ x = y
  | [], [], _, h => ⟨rfl, h⟩
  | p :: ps, q :: qs, hlength, h => by
      simp only [SeqType.hashDataAll, List.append_assoc] at h
      obtain ⟨hhead, h⟩ := SeqType.hashData_cancel h
      obtain ⟨htail, hrest⟩ := SeqType.hashDataAll_cancel (Nat.succ.inj hlength) h
      exact ⟨by rw [SeqType.bareAll, SeqType.bareAll, hhead, htail], hrest⟩

end

theorem NameTest.hashData_bare (t : NameTest) : t.bare.hashData = t.hashData := by
  cases t <;> rfl

theorem KindTest.hashData_bare (k : KindTest) : k.bare.hashData = k.hashData := by
  rw [hashData, hashData, bare, k.names.hashData_bare]

theorem testHashData_bare (k : Option KindTest) : testHashData (k.map KindTest.bare) = testHashData k := by
  cases k with
  | none => rfl
  | some k => rw [Option.map_some, testHashData, testHashData, k.hashData_bare]

mutual

theorem ItemType.hashData_bare : (t : ItemType) → t.bare.hashData = t.hashData
  | .item | .atomic _ | .node _ => by rw [ItemType.bare]
  | .function f => by rw [ItemType.bare, ItemType.hashData, ItemType.hashData, f.hashData_bare]
  | .map k v => by rw [ItemType.bare, ItemType.hashData, ItemType.hashData, v.hashData_bare]
  | .array m => by rw [ItemType.bare, ItemType.hashData, ItemType.hashData, m.hashData_bare]

theorem FunctionType.hashData_bare : (f : FunctionType) → f.bare.hashData = f.hashData
  | .any => by rw [FunctionType.bare]
  | .of ps r => by
      rw [FunctionType.bare, FunctionType.hashData, FunctionType.hashData, SeqType.length_bareAll,
        SeqType.hashDataAll_bareAll ps, r.hashData_bare]

theorem SeqType.hashData_bare : (a : SeqType) → a.bare.hashData = a.hashData
  | .empty => by rw [SeqType.bare]
  | .of t o k h => by
      rw [SeqType.bare, SeqType.hashData, SeqType.hashData, t.hashData_bare, testHashData_bare]

theorem SeqType.hashDataAll_bareAll : (ps : List SeqType) →
    SeqType.hashDataAll (SeqType.bareAll ps) = SeqType.hashDataAll ps
  | [] => by rw [SeqType.bareAll]
  | p :: ps => by
      rw [SeqType.bareAll, SeqType.hashDataAll, SeqType.hashDataAll, p.hashData_bare,
        SeqType.hashDataAll_bareAll ps]

end

namespace SeqType

theorem beq_iff_hashData {a b : SeqType} : a == b ↔ a.hashData = b.hashData := by
  have hbare : a == b ↔ a.bare = b.bare := beq_iff_bare
  rw [hbare]
  constructor
  · intro h
    rw [← a.hashData_bare, h, b.hashData_bare]
  · intro h
    exact (hashData_cancel (congrArg (· ++ []) h)).1

instance : EquivBEq SeqType where
  symm h := beq_iff_hashData.2 (beq_iff_hashData.1 h).symm
  trans hab hbc := beq_iff_hashData.2 ((beq_iff_hashData.1 hab).trans (beq_iff_hashData.1 hbc))

instance : LawfulHashable SeqType where
  hash_eq a b h := by
    show hash a.hashData = hash b.hashData
    rw [beq_iff_hashData.1 h]

/-- No operation tells the first two types from the last two. -/
structure Interchangeable (a b a' b' : SeqType) : Prop where
  subtypeOf : a.subtypeOf b = a'.subtypeOf b'
  promotable : a.promotable b = a'.promotable b'
  union : a.union b == a'.union b'
  intersect? : a.intersect? b == a'.intersect? b'
  withOccurrence : ∀ o, a.withOccurrence o == a'.withOccurrence o
  hasInstance : ∀ v, a.hasInstance v = a'.hasInstance v

theorem interchangeable_of_bare {a b a' b' : SeqType} (ha : a.bare = a'.bare) (hb : b.bare = b'.bare) :
    Interchangeable a b a' b' where
  subtypeOf := by rw [← subtypeOf_bare, ha, hb, subtypeOf_bare]
  promotable := by rw [← promotable_bare, ha, hb, promotable_bare]
  union := beq_iff_bare.2 (by rw [← union_bare, ha, hb, union_bare])
  intersect? := (option_beq_iff_map fun _ _ => beq_iff_bare).2
    (by rw [← intersect?_bare, ha, hb, intersect?_bare])
  withOccurrence o := beq_iff_bare.2 (by rw [← withOccurrence_bare, ha, withOccurrence_bare])
  hasInstance v := by rw [← hasInstance_bare, ha, hasInstance_bare]

/-- Equality of types is an equivalence, equal types are those with the same data for a hash, and equal
types can take each other's place in every operation. -/
theorem beq_congruence :
    EquivBEq SeqType ∧ LawfulHashable SeqType ∧
    (∀ a a' : SeqType, a == a' ↔ a.hashData = a'.hashData) ∧
    ∀ a a' b b' : SeqType, a == a' → b == b' → Interchangeable a b a' b' := by
  refine ⟨inferInstance, inferInstance, fun _ _ => beq_iff_hashData, ?_⟩
  intro a a' b b' ha hb
  exact interchangeable_of_bare (beq_iff_bare.1 ha) (beq_iff_bare.1 hb)

/-- Two types that hold an element name under a prefix each, once in an array and once in the result of a
function. -/
theorem interchangeable_under_other_prefix :
    let elements (p : String) : SeqType :=
      .of (.node .element) .zeroMore (some ⟨.element, .name ⟨⟨"uri", "e"⟩, some p⟩⟩) (by decide)
    let arrays (p : String) : SeqType := .of (.array (elements p)) .oneMore none (by decide)
    let functions (p : String) : SeqType :=
      .of (.function (.of [(ItemType.atomic .integer).single] (elements p))) .zeroMore none (by decide)
    arrays "one" ≠ arrays "two" ∧ arrays "one" == arrays "two" ∧
      (arrays "one").subtypeOf (functions "three") ∧
      Interchangeable (arrays "one") (functions "one") (arrays "two") (functions "three") := by
  intro elements arrays functions
  have harrays : arrays "one" == arrays "two" := beq_iff_bare.2 rfl
  have hfunctions : functions "one" == functions "three" := beq_iff_bare.2 rfl
  refine ⟨?_, harrays, by decide +kernel, beq_congruence.2.2.2 _ _ _ _ harrays hfunctions⟩
  intro h
  simp [arrays, elements] at h

end SeqType
end SequenceTypes
