import SequenceTypes.SeqType.Subtype

/-! Union and intersection of types. The parameters of a union of functions are intersected, and those
of an intersection united. -/

namespace SequenceTypes

/-- The test of a union: kept if both types have it. -/
def commonTest (a b : Option KindTest) : Option KindTest :=
  match a, b with
  | some s, some t => if s == t then some s else none
  | _, _ => none

/-- The test of an intersection, `none` if the tests exclude each other. -/
def mergeTests? (a b : Option KindTest) : Option (Option KindTest) :=
  match a, b with
  | none, t => some t
  | s, none => some s
  | some s, some t => if s == t then some (some s) else (s.intersect? t).map some

mutual

/-- The least item type that covers both. -/
def ItemType.union (a b : ItemType) : ItemType :=
  if a.subtypeOf b then b
  else if b.subtypeOf a then a
  else
    match a, b with
    | .atomic s, .atomic t => (s.union? t).elim .item .atomic
    | .node _, .node _ => .node .any
    | .map k v, .map l w => .map ((k.union? l).getD .anyAtomic) (v.union w)
    | .array m, .array n => .array (m.union n)
    | .function f, .function g => .function (f.union g)
    | a, b => if a.isFunction && b.isFunction then .function .any else .item
termination_by a.weight + b.weight
decreasing_by all_goals simp only [ItemType.weight]; omega

/-- The greatest item type covered by both, `none` if they are disjoint. A function of one parameter may
still be a map or an array. -/
def ItemType.intersect? (a b : ItemType) : Option ItemType :=
  if a.subtypeOf b then some a
  else if b.subtypeOf a then some b
  else
    match a, b with
    | .atomic s, .atomic t => (s.intersect? t).map .atomic
    | .function f, .function g => (f.intersect? g).map .function
    | .map k v, .map l w => (k.intersect? l).bind fun key => (v.intersect? w).map (.map key)
    | .array m, .array n => (m.intersect? n).map .array
    | .map k v, .function f => if f.arity? = some 1 then some (.map k v) else none
    | .array m, .function f => if f.arity? = some 1 then some (.array m) else none
    | .function f, .map k v => if f.arity? = some 1 then some (.map k v) else none
    | .function f, .array m => if f.arity? = some 1 then some (.array m) else none
    | _, _ => none
termination_by a.weight + b.weight
decreasing_by all_goals simp only [ItemType.weight]; omega

/-- The function type that covers both; `function(*)` if their parameters do not go together. -/
def FunctionType.union : FunctionType → FunctionType → FunctionType
  | .of ps r, .of qs s =>
    match SeqType.intersectAll? ps qs with
    | some params => .of params (r.union s)
    | none => .any
  | _, _ => .any
termination_by f g => f.weight + g.weight
decreasing_by all_goals simp only [FunctionType.weight]; omega

/-- The function type covered by both, if they have signatures of one arity and compatible results. -/
def FunctionType.intersect? : FunctionType → FunctionType → Option FunctionType
  | .of ps r, .of qs s =>
    (SeqType.unionAll? ps qs).bind fun params => (r.intersect? s).map (.of params)
  | _, _ => none
termination_by f g => f.weight + g.weight
decreasing_by all_goals simp only [FunctionType.weight]; omega

/-- The least sequence type that covers both. The empty sequence contributes no item type. -/
def SeqType.union : SeqType → SeqType → SeqType
  | .empty, b => .make b.itemType (Occurrence.union .zero b.occurrence) b.test?
  | .of t o k _, .empty => .make t (o.union .zero) k
  | .of t o k _, .of u p l _ =>
    if t == u then .make t (o.union p) (commonTest k l) else .make (t.union u) (o.union p) none
termination_by a b => a.weight + b.weight
decreasing_by simp only [SeqType.weight]; omega

/-- The greatest sequence type covered by both, `none` if they share no instances. -/
def SeqType.intersect? (a b : SeqType) : Option SeqType :=
  (a.occurrence.intersect? b.occurrence).bind fun o =>
    (a.itemType.intersect? b.itemType).bind fun t =>
      (mergeTests? a.test? b.test?).map (.make t o)
termination_by a.weight + b.weight
decreasing_by
  have := a.itemType_weight_lt
  have := b.itemType_weight_lt
  omega

/-- Intersections place by place, `none` if one is missing or the lengths differ. -/
def SeqType.intersectAll? : List SeqType → List SeqType → Option (List SeqType)
  | [], [] => some []
  | p :: ps, q :: qs => (p.intersect? q).bind fun r => (SeqType.intersectAll? ps qs).map (r :: ·)
  | _, _ => none
termination_by ps qs => SeqType.weightAll ps + SeqType.weightAll qs
decreasing_by all_goals simp only [SeqType.weightAll]; omega

/-- Unions place by place, `none` if the lengths differ. -/
def SeqType.unionAll? : List SeqType → List SeqType → Option (List SeqType)
  | [], [] => some []
  | p :: ps, q :: qs => (SeqType.unionAll? ps qs).map (p.union q :: ·)
  | _, _ => none
termination_by ps qs => SeqType.weightAll ps + SeqType.weightAll qs
decreasing_by all_goals simp only [SeqType.weightAll]; omega

end
end SequenceTypes
