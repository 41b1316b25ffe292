import SequenceTypes.SeqType.Basic

/-! Subtyping. Functions are contravariant in their parameters and covariant in their result, and maps
and arrays are functions by their lookup. Refining tests are compared for overlap only: `element(a)`
counts as a subtype of `element(*:a)` and the other way round. -/

namespace SequenceTypes

/-- Whether the test of a type satisfies the test that is asked for. -/
def testsOverlap (own expected : Option KindTest) : Bool :=
  match expected with
  | none => true
  | some e => own.any fun t => (t.intersect? e).isSome

mutual

def ItemType.subtypeOf : ItemType → ItemType → Bool
  | _, .item => true
  | .atomic s, .atomic t => s.subtypeOf t
  | .node j, .node k => j.subtypeOf k
  | .function f, .function g => f.subtypeOf g
  | .map k v, .map l w => k.subtypeOf l && v.subtypeOf w
  | .array m, .array n => m.subtypeOf n
  | .map _ v, .function g => (FunctionType.ofMap v).subtypeOf g
  | .array m, .function g => (FunctionType.ofArray m).subtypeOf g
  | _, _ => false
termination_by a b => a.weight + b.weight
decreasing_by
  all_goals simp only [ItemType.weight]
  all_goals try have := FunctionType.weight_ofMap_le v
  all_goals try have := FunctionType.weight_ofArray m
  all_goals omega

def FunctionType.subtypeOf : FunctionType → FunctionType → Bool
  | _, .any => true
  | .of ps r, .of qs s => SeqType.subtypeOfAll qs ps && r.subtypeOf s
  | .any, .of _ _ => false
termination_by f g => f.weight + g.weight
decreasing_by all_goals simp only [FunctionType.weight]; omega

def SeqType.subtypeOf : SeqType → SeqType → Bool
  | .empty, b => b.mayBeZero
  | .of t o k _, b =>
    t.subtypeOf b.itemType && o.subtypeOf b.occurrence && testsOverlap k b.test?
termination_by a b => a.weight + b.weight
decreasing_by
  have := b.itemType_weight_lt
  simp only [SeqType.weight]
  omega

/-- Subtyping place by place, of lists of one length. -/
def SeqType.subtypeOfAll : List SeqType → List SeqType → Bool
  | [], [] => true
  | p :: ps, q :: qs => p.subtypeOf q && SeqType.subtypeOfAll ps qs
  | _, _ => false
termination_by ps qs => SeqType.weightAll ps + SeqType.weightAll qs
decreasing_by all_goals simp only [SeqType.weightAll]; omega

end

namespace SeqType

def mayBeNumber (s : SeqType) : Bool :=
  !s.isZero && (s.itemType.isNumeric || (ItemType.atomic .anyAtomic).subtypeOf s.itemType)

def mayBeArray (s : SeqType) : Bool :=
  !s.isZero && (s.itemType.isArray || ItemType.anyArray.subtypeOf s.itemType)

end SeqType
end SequenceTypes
