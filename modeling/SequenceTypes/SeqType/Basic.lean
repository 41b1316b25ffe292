import SequenceTypes.AtomicType
import SequenceTypes.KindTest
import SequenceTypes.Occurrence

/-! Item types, function types and sequence types. A sequence type is the empty-sequence type, or an item
type with an occurrence other than zero and at most one refining kind test. Equality of types ignores
the prefixes of names in tests. -/

namespace SequenceTypes

mutual

/-- The type of a single item. -/
inductive ItemType where
  /-- Any item: `item()`. -/
  | item
  | atomic (type : AtomicType)
  | node (kind : NodeKind)
  | function (type : FunctionType)
  | map (key : AtomicType) (value : SeqType)
  | array (member : SeqType)

/-- The type of a function. -/
inductive FunctionType where
  /-- Any function: `function(*)`. -/
  | any
  | of (params : List SeqType) (result : SeqType)

/-- The type of a sequence. -/
inductive SeqType where
  /-- The type of the empty sequence alone. -/
  | empty
  | of (item : ItemType) (occurrence : Occurrence) (test? : Option KindTest)
      (nonzero : occurrence ≠ .zero)

end

mutual

/-- Equality of item types, up to the prefixes of names in tests. -/
def ItemType.beq : ItemType → ItemType → Bool
  | .item, .item => true
  | .atomic s, .atomic t => s = t
  | .node j, .node k => j = k
  | .function f, .function g => f.beq g
  | .map k v, .map l w => k = l && v.beq w
  | .array m, .array n => m.beq n
  | _, _ => false

/-- Equality of function types, up to the prefixes of names in tests. -/
def FunctionType.beq : FunctionType → FunctionType → Bool
  | .any, .any => true
  | .of ps r, .of qs s => SeqType.beqAll ps qs && r.beq s
  | _, _ => false

/-- Equality of sequence types, up to the prefixes of names in tests. -/
def SeqType.beq : SeqType → SeqType → Bool
  | .empty, .empty => true
  | .of t o k _, .of u p l _ => o = p && t.beq u && k == l
  | _, _ => false

def SeqType.beqAll : List SeqType → List SeqType → Bool
  | [], [] => true
  | p :: ps, q :: qs => p.beq q && SeqType.beqAll ps qs
  | _, _ => false

end

instance : BEq ItemType := ⟨ItemType.beq⟩

instance : BEq FunctionType := ⟨FunctionType.beq⟩

instance : BEq SeqType := ⟨SeqType.beq⟩

/-- The data of a test that may be absent. -/
def testHashData : Option KindTest → List HashPiece
  | none => [.number 0]
  | some k => .number 1 :: k.hashData

mutual

/-- The data of an item type for a hash. -/
def ItemType.hashData : ItemType → List HashPiece
  | .item => [.number 0]
  | .atomic t => [.number 1, .number t.ctorIdx]
  | .node k => [.number 2, .number k.ctorIdx]
  | .function f => .number 3 :: f.hashData
  | .map k v => .number 4 :: .number k.ctorIdx :: v.hashData
  | .array m => .number 5 :: m.hashData

/-- The data of a function type for a hash. -/
def FunctionType.hashData : FunctionType → List HashPiece
  | .any => [.number 0]
  | .of ps r => .number 1 :: .number ps.length :: (SeqType.hashDataAll ps ++ r.hashData)

/-- The data of a sequence type for a hash. -/
def SeqType.hashData : SeqType → List HashPiece
  | .empty => [.number Occurrence.zero.ctorIdx]
  | .of t o k _ => .number o.ctorIdx :: (t.hashData ++ testHashData k)

/-- The data of a list of sequence types for a hash. -/
def SeqType.hashDataAll : List SeqType → List HashPiece
  | [] => []
  | p :: ps => p.hashData ++ SeqType.hashDataAll ps

end

instance : Hashable SeqType := ⟨fun s => hash s.hashData⟩

mutual

/-- A measure of item types under which a map or array is heavier than its lookup function. -/
def ItemType.weight : ItemType → Nat
  | .item | .atomic _ | .node _ => 1
  | .function f => 1 + f.weight
  | .map _ v => 4 + v.weight
  | .array m => 4 + m.weight

def FunctionType.weight : FunctionType → Nat
  | .any => 1
  | .of ps r => 1 + SeqType.weightAll ps + r.weight

def SeqType.weight : SeqType → Nat
  | .empty => 2
  | .of t _ _ _ => 1 + t.weight

/-- The measure of lists of sequence types. -/
def SeqType.weightAll : List SeqType → Nat
  | [] => 0
  | p :: ps => 1 + p.weight + SeqType.weightAll ps

end

namespace SeqType

/-- The type of all items of an instance; `item()` for the empty-sequence type. -/
def itemType : SeqType → ItemType
  | empty => .item
  | of t _ _ _ => t

def occurrence : SeqType → Occurrence
  | empty => .zero
  | of _ o _ _ => o

def test? : SeqType → Option KindTest
  | empty => none
  | of _ _ k _ => k

/-- The type of an item type, an occurrence and a test; no items make the empty-sequence type. -/
def make (t : ItemType) (o : Occurrence) (k : Option KindTest) : SeqType :=
  if h : o = .zero then empty else of t o k h

/-- The same type with another occurrence. The empty-sequence type stays what it is where the new
occurrence admits the empty sequence. -/
def withOccurrence (s : SeqType) (o : Occurrence) : SeqType :=
  if o = s.occurrence || (s.occurrence = .zero && o.lower = 0) then s
  else make s.itemType o s.test?

/-- Whether only the empty sequence is an instance. -/
def isZero (s : SeqType) : Bool := s.occurrence = .zero

def isOne (s : SeqType) : Bool := s.occurrence = .one

/-- Whether instances have at most one item. -/
def isZeroOrOne (s : SeqType) : Bool := Occurrence.boundLe s.occurrence.upper? (some 1)

/-- Whether instances have at least one item. -/
def isOneOrMore (s : SeqType) : Bool := 1 ≤ s.occurrence.lower

/-- Whether the empty sequence is an instance. -/
def mayBeZero (s : SeqType) : Bool := s.occurrence.lower = 0

/-- The number of items, where all instances have the same. -/
def count? (s : SeqType) : Option Nat :=
  if s.isZero then some 0 else if s.isOne then some 1 else none

theorem make_zero (t : ItemType) (k : Option KindTest) : make t .zero k = empty := rfl

theorem make_of_ne_zero (t : ItemType) {o : Occurrence} (k : Option KindTest) (ho : o ≠ .zero) :
    make t o k = of t o k ho := dif_neg ho

@[simp] theorem occurrence_make (t : ItemType) (o : Occurrence) (k : Option KindTest) :
    (make t o k).occurrence = o := by
  by_cases ho : o = .zero
  · rw [ho, make_zero, occurrence]
  · rw [make_of_ne_zero t k ho, occurrence]

theorem itemType_weight_lt (s : SeqType) : s.itemType.weight < s.weight := by
  cases s <;> simp [itemType, weight, ItemType.weight]

theorem weight_make_le (t : ItemType) (o : Occurrence) (k : Option KindTest) :
    (make t o k).weight ≤ 1 + t.weight := by
  have h : 1 ≤ t.weight := by cases t <;> simp [ItemType.weight] <;> omega
  unfold make
  split
  · simp only [weight]; omega
  · exact Nat.le_refl _

theorem weight_withOccurrence_le (s : SeqType) (o : Occurrence) :
    (s.withOccurrence o).weight ≤ s.weight := by
  unfold withOccurrence
  split
  · exact Nat.le_refl _
  · have := weight_make_le s.itemType o s.test?
    have := itemType_weight_lt s
    omega

end SeqType

namespace FunctionType

/-- The number of parameters, unknown for `function(*)`. -/
def arity? : FunctionType → Option Nat
  | any => none
  | of ps _ => some ps.length

end FunctionType

namespace ItemType

/-- The sequence type of exactly one item. -/
def single (t : ItemType) : SeqType := .of t .one none (by decide)

/-- The type of all maps: `map(*)`. -/
def anyMap : ItemType := .map .anyAtomic (.of .item .zeroMore none (by decide))

/-- The type of all arrays: `array(*)`. -/
def anyArray : ItemType := .array (.of .item .zeroMore none (by decide))

def isUniversal : ItemType → Bool
  | item => true
  | _ => false

def asAtomic? : ItemType → Option AtomicType
  | atomic t => some t
  | _ => none

def isAtomic (t : ItemType) : Bool := t.asAtomic?.isSome

def isNumeric (t : ItemType) : Bool := t.asAtomic?.any AtomicType.isNumeric

/-- Whether instances are, or atomize to, untyped data. -/
def isUntyped : ItemType → Bool
  | atomic t => t.isUntyped
  | node k => k.atomizesUntyped
  | _ => false

def isNamespaceSensitive (t : ItemType) : Bool := t.asAtomic?.any AtomicType.isNamespaceSensitive

def isListLike (t : ItemType) : Bool := t.asAtomic?.any AtomicType.isListLike

def isNode : ItemType → Bool
  | node _ => true
  | _ => false

/-- Functions, maps and arrays. -/
def isFunction : ItemType → Bool
  | function _ | map _ _ | array _ => true
  | _ => false

def isArray : ItemType → Bool
  | array _ => true
  | _ => false

end ItemType

namespace FunctionType

/-- A map with the given values seen as a function from keys to values: a key may be absent. -/
def ofMap (value : SeqType) : FunctionType :=
  .of [(ItemType.atomic .anyAtomic).single]
    (value.withOccurrence (value.occurrence.union .zeroOne))

/-- An array with the given members seen as a function from positions to members. -/
def ofArray (member : SeqType) : FunctionType := .of [(ItemType.atomic .integer).single] member

theorem weight_ofMap_le (v : SeqType) : (ofMap v).weight ≤ 4 + v.weight := by
  have := v.weight_withOccurrence_le (v.occurrence.union .zeroOne)
  simp [ofMap, weight, SeqType.weightAll, ItemType.single, SeqType.weight, ItemType.weight]
  omega

theorem weight_ofArray (m : SeqType) : (ofArray m).weight = 4 + m.weight := by
  simp [ofArray, weight, SeqType.weightAll, ItemType.single, SeqType.weight, ItemType.weight]

end FunctionType

/-- A map or array type seen as a function type. -/
def ItemType.lookup? : ItemType → Option FunctionType
  | .map _ v => some (.ofMap v)
  | .array m => some (.ofArray m)
  | _ => none

end SequenceTypes
