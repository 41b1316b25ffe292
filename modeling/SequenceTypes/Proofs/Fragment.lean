import SequenceTypes.SeqType.Basic

/-! Fragments of the types. A fragment says which item types and which tests may occur, and a type lies
within it if they are the only ones that do, at any depth: in parameters and results of functions, in
values of maps and in members of arrays. -/

namespace SequenceTypes

/-- What may occur in the types of a fragment. -/
structure Fragment where
  item : ItemType → Bool
  test : Option KindTest → Bool

mutual

/-- Whether an item type and all types in it belong to the fragment. -/
def ItemType.within (f : Fragment) : ItemType → Bool
  | .item => f.item .item
  | .atomic t => f.item (.atomic t)
  | .node k => f.item (.node k)
  | .function g => f.item (.function g) && g.within f
  | .map k v => f.item (.map k v) && v.within f
  | .array m => f.item (.array m) && m.within f

def FunctionType.within (f : Fragment) : FunctionType → Bool
  | .any => true
  | .of ps r => SeqType.allWithin f ps && r.within f

def SeqType.within (f : Fragment) : SeqType → Bool
  | .empty => true
  | .of t _ k _ => f.test k && t.within f

def SeqType.allWithin (f : Fragment) : List SeqType → Bool
  | [] => true
  | p :: ps => p.within f && SeqType.allWithin f ps

end

namespace Fragment

def testFree : Fragment := ⟨fun _ => true, Option.isNone⟩

@[simp] theorem testFree_item (t : ItemType) : testFree.item t = true := rfl

@[simp] theorem testFree_test (k : Option KindTest) : testFree.test k = k.isNone := rfl

/-- The types with neither refining tests nor signatures: `function(*)` is their only function type. -/
def plain : Fragment where
  item
    | .function (.of _ _) => false
    | _ => true
  test := Option.isNone

/-- The types in which no map is keyed by the list type and no signature has one parameter. -/
def regular : Fragment where
  item
    | .map .nmtokens _ => false
    | .function (.of [_] _) => false
    | _ => true
  test _ := true

/-- The types with neither refining tests nor signatures, in which no map is keyed by the list type. -/
def signatureFree : Fragment where
  item
    | .map .nmtokens _ => false
    | .function (.of _ _) => false
    | _ => true
  test := Option.isNone

end Fragment

namespace ItemType

variable {f : Fragment}

theorem within_function_iff {g : FunctionType} :
    (function g).within f ↔ f.item (.function g) ∧ g.within f := by
  rw [within, Bool.and_eq_true]

theorem within_map_iff {k : AtomicType} {v : SeqType} :
    (map k v).within f ↔ f.item (.map k v) ∧ v.within f := by
  rw [within, Bool.and_eq_true]

theorem within_array_iff {m : SeqType} : (array m).within f ↔ f.item (.array m) ∧ m.within f := by
  rw [within, Bool.and_eq_true]

end ItemType

mutual

theorem ItemType.within_mono {f g : Fragment} (hitem : ∀ t, f.item t → g.item t)
    (htest : ∀ k, f.test k → g.test k) : {t : ItemType} → t.within f → t.within g
  | .item, h => hitem _ h
  | .atomic _, h => hitem _ h
  | .node _, h => hitem _ h
  | .function h, hf => by
      rw [ItemType.within_function_iff] at hf ⊢
      exact ⟨hitem _ hf.1, FunctionType.within_mono hitem htest hf.2⟩
  | .map k v, hf => by
      rw [ItemType.within_map_iff] at hf ⊢
      exact ⟨hitem _ hf.1, SeqType.within_mono hitem htest hf.2⟩
  | .array m, hf => by
      rw [ItemType.within_array_iff] at hf ⊢
      exact ⟨hitem _ hf.1, SeqType.within_mono hitem htest hf.2⟩

theorem FunctionType.within_mono {f g : Fragment} (hitem : ∀ t, f.item t → g.item t)
    (htest : ∀ k, f.test k → g.test k) : {h : FunctionType} → h.within f → h.within g
  | .any, _ => rfl
  | .of ps r, hf => by
      simp only [FunctionType.within, Bool.and_eq_true] at hf ⊢
      exact ⟨SeqType.allWithin_mono hitem htest hf.1, SeqType.within_mono hitem htest hf.2⟩

theorem SeqType.within_mono {f g : Fragment} (hitem : ∀ t, f.item t → g.item t)
    (htest : ∀ k, f.test k → g.test k) : {s : SeqType} → s.within f → s.within g
  | .empty, _ => rfl
  | .of t o k h, hf => by
      simp only [SeqType.within, Bool.and_eq_true] at hf ⊢
      exact ⟨htest k hf.1, ItemType.within_mono hitem htest hf.2⟩

theorem SeqType.allWithin_mono {f g : Fragment} (hitem : ∀ t, f.item t → g.item t)
    (htest : ∀ k, f.test k → g.test k) :
    {ps : List SeqType} → SeqType.allWithin f ps → SeqType.allWithin g ps
  | [], _ => rfl
  | p :: ps, hf => by
      simp only [SeqType.allWithin, Bool.and_eq_true] at hf ⊢
      exact ⟨SeqType.within_mono hitem htest hf.1, SeqType.allWithin_mono hitem htest hf.2⟩

end

namespace SeqType

variable {f : Fragment} {s : SeqType}

theorem itemType_within (hitem : f.item .item) (hs : s.within f) : s.itemType.within f := by
  cases s with
  | empty => exact hitem
  | of t o k h =>
      simp only [within, Bool.and_eq_true] at hs
      exact hs.2

theorem test?_eq_none_of_within (htest : f.test = Option.isNone) (hs : s.within f) : s.test? = none := by
  cases s with
  | empty => rfl
  | of t o k h =>
      simp only [within, htest, Bool.and_eq_true, Option.isNone_iff_eq_none] at hs
      exact hs.1

theorem make_within {t : ItemType} (htest : f.test none) (ht : t.within f) (o : Occurrence) :
    (make t o none).within f := by
  unfold make
  split
  · rfl
  · simp [within, ht, htest]

theorem withOccurrence_within (hitem : f.item .item) (htest : f.test = Option.isNone)
    (hs : s.within f) (o : Occurrence) : (s.withOccurrence o).within f := by
  unfold withOccurrence
  split
  · exact hs
  · rw [test?_eq_none_of_within htest hs]
    exact make_within (by rw [htest]; rfl) (itemType_within hitem hs) o

end SeqType

namespace FunctionType

theorem ofMap_testFree {v : SeqType} (hv : v.within .testFree) : (ofMap v).within .testFree := by
  have hresult := SeqType.withOccurrence_within rfl rfl hv (v.occurrence.union .zeroOne)
  simp [ofMap, within, SeqType.allWithin, ItemType.single, SeqType.within, ItemType.within, hresult]

theorem ofArray_testFree {m : SeqType} (hm : m.within .testFree) : (ofArray m).within .testFree := by
  simp [ofArray, within, SeqType.allWithin, ItemType.single, SeqType.within, ItemType.within, hm]

end FunctionType
end SequenceTypes
