import SequenceTypes.Catalog.Basic
import SequenceTypes.SeqType.Lattice

/-! Subtyping, union and intersection with the catalogue. Every single type that comes up on the way is asked
for in the catalogue, also where the result does not hold it in the end: the parameters of two functions are
united before their results turn out to be disjoint. -/

namespace SequenceTypes

mutual

/-- Subtyping of item types. The parameter of a lookup function is asked for; the representative of an atomic
type is the type itself. -/
def ItemType.settledSubtypeOf : ItemType → ItemType → StateM Catalog Bool
  | .function f, .function g => f.settledSubtypeOf g
  | .map k v, .map l w => if k.subtypeOf l then v.settledSubtypeOf w else pure false
  | .array m, .array n => m.settledSubtypeOf n
  | .map _ v, .function g => do
    let _ ← Catalog.intern (.atomic .anyAtomic)
    (FunctionType.ofMap v).settledSubtypeOf g
  | .array m, .function g => do
    let _ ← Catalog.intern (.atomic .integer)
    (FunctionType.ofArray m).settledSubtypeOf g
  | a, b => pure (a.subtypeOf b)
termination_by a b => a.weight + b.weight
decreasing_by
  all_goals simp only [ItemType.weight]
  all_goals try have := FunctionType.weight_ofMap_le v
  all_goals try have := FunctionType.weight_ofArray m
  all_goals omega

def FunctionType.settledSubtypeOf : FunctionType → FunctionType → StateM Catalog Bool
  | .of ps r, .of qs s =>
    if ps.length = qs.length then do
      if ← SeqType.settledSubtypeOfAll qs ps then r.settledSubtypeOf s else return false
    else pure false
  | f, g => pure (f.subtypeOf g)
termination_by f g => f.weight + g.weight
decreasing_by all_goals simp only [FunctionType.weight]; omega

def SeqType.settledSubtypeOf : SeqType → SeqType → StateM Catalog Bool
  | .empty, b => pure b.mayBeZero
  | .of t o k _, b => do
    if ← t.settledSubtypeOf b.itemType then
      return o.subtypeOf b.occurrence && testsOverlap k b.test?
    else return false
termination_by a b => a.weight + b.weight
decreasing_by
  have := b.itemType_weight_lt
  simp only [SeqType.weight]
  omega

/-- Subtyping place by place, up to the first place where it fails. -/
def SeqType.settledSubtypeOfAll : List SeqType → List SeqType → StateM Catalog Bool
  | p :: ps, q :: qs => do
    if ← p.settledSubtypeOf q then SeqType.settledSubtypeOfAll ps qs else return false
  | ps, qs => pure (SeqType.subtypeOfAll ps qs)
termination_by ps qs => SeqType.weightAll ps + SeqType.weightAll qs
decreasing_by all_goals simp only [SeqType.weightAll]; omega

end

mutual

def ItemType.settledUnion (a b : ItemType) : StateM Catalog ItemType := do
  if ← a.settledSubtypeOf b then return b
  else if ← b.settledSubtypeOf a then return a
  else
    match a, b with
    | .map k v, .map l w => do
      let value ← v.settledUnion w
      return .map ((k.union? l).getD .anyAtomic) value
    | .array m, .array n => do
      let member ← m.settledUnion n
      return .array member
    | .function f, .function g => do
      let type ← f.settledUnion g
      return .function type
    | a, b => pure (a.union b)
termination_by a.weight + b.weight
decreasing_by all_goals simp only [ItemType.weight]; omega

def ItemType.settledIntersect? (a b : ItemType) : StateM Catalog (Option ItemType) := do
  if ← a.settledSubtypeOf b then return some a
  else if ← b.settledSubtypeOf a then return some b
  else
    match a, b with
    | .function f, .function g => do
      let type? ← f.settledIntersect? g
      return type?.map .function
    | .map k v, .map l w =>
      match k.intersect? l with
      | none => pure none
      | some key => do
        let value? ← v.settledIntersect? w
        return value?.map (.map key)
    | .array m, .array n => do
      let member? ← m.settledIntersect? n
      return member?.map .array
    | a, b => pure (a.intersect? b)
termination_by a.weight + b.weight
decreasing_by all_goals simp only [ItemType.weight]; omega

def FunctionType.settledUnion : FunctionType → FunctionType → StateM Catalog FunctionType
  | .of ps r, .of qs s =>
    if ps.length = qs.length then do
      match ← SeqType.settledIntersectAll? ps qs with
      | some params =>
        let result ← r.settledUnion s
        return .of params result
      | none => return .any
    else pure .any
  | _, _ => pure .any
termination_by f g => f.weight + g.weight
decreasing_by all_goals simp only [FunctionType.weight]; omega

def FunctionType.settledIntersect? :
    FunctionType → FunctionType → StateM Catalog (Option FunctionType)
  | .of ps r, .of qs s =>
    if ps.length = qs.length then do
      let params ← SeqType.settledUnionAll ps qs
      let result? ← r.settledIntersect? s
      return result?.map (.of params)
    else pure none
  | _, _ => pure none
termination_by f g => f.weight + g.weight
decreasing_by all_goals simp only [FunctionType.weight]; omega

def SeqType.settledUnion : SeqType → SeqType → StateM Catalog SeqType
  | .empty, b => Catalog.form b.itemType (Occurrence.union .zero b.occurrence) b.test?
  | .of t o k _, .empty => Catalog.form t (o.union .zero) k
  | .of t o k _, .of u p l _ =>
    if t == u then Catalog.form t (o.union p) (commonTest k l)
    else do
      let cover ← t.settledUnion u
      Catalog.form cover (o.union p) none
termination_by a b => a.weight + b.weight
decreasing_by simp only [SeqType.weight]; omega

def SeqType.settledIntersect? (a b : SeqType) : StateM Catalog (Option SeqType) :=
  match a.occurrence.intersect? b.occurrence with
  | none => pure none
  | some o => do
    match ← a.itemType.settledIntersect? b.itemType, mergeTests? a.test? b.test? with
    | some t, some k =>
      let type ← Catalog.form t o k
      return some type
    | _, _ => return none
termination_by a.weight + b.weight
decreasing_by
  have := a.itemType_weight_lt
  have := b.itemType_weight_lt
  omega

/-- Intersections place by place, up to the first that is missing. -/
def SeqType.settledIntersectAll? :
    List SeqType → List SeqType → StateM Catalog (Option (List SeqType))
  | p :: ps, q :: qs => do
    match ← p.settledIntersect? q with
    | none => return none
    | some r =>
      let rest? ← SeqType.settledIntersectAll? ps qs
      return rest?.map (r :: ·)
  | _, _ => pure (some [])
termination_by ps qs => SeqType.weightAll ps + SeqType.weightAll qs
decreasing_by all_goals simp only [SeqType.weightAll]; omega

/-- Unions place by place. -/
def SeqType.settledUnionAll : List SeqType → List SeqType → StateM Catalog (List SeqType)
  | p :: ps, q :: qs => do
    let r ← p.settledUnion q
    let rest ← SeqType.settledUnionAll ps qs
    return r :: rest
  | _, _ => pure []
termination_by ps qs => SeqType.weightAll ps + SeqType.weightAll qs
decreasing_by all_goals simp only [SeqType.weightAll]; omega

end
end SequenceTypes
