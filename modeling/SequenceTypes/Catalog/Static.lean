import SequenceTypes.Catalog.Lattice
import SequenceTypes.Cause

/-! The types of values, from the catalogue, the checks that ask for types on their way, and the causes of
failures as they are reported. -/

namespace SequenceTypes

/-- The most specific type of a sequence. -/
def Sequence.settledStaticType : Sequence → StateM Catalog SeqType
  | [] => pure .empty
  | first :: rest => do
    let type ←
      if isHomogeneous (first :: rest) then pure first.runtimeType
      else rest.foldlM (fun t i => t.settledUnion i.runtimeType) first.runtimeType
    Catalog.form type (.ofSize (some (rest.length + 1))) none

/-- The type that covers some sequences; the empty-sequence type if there are none. -/
def settledCover : List Sequence → StateM Catalog SeqType
  | [] => pure .empty
  | v :: vs => do
    let first ← v.settledStaticType
    vs.foldlM (fun s v => do s.settledUnion (← v.settledStaticType)) first

/-- The type of an item with the types of the entries of a map or the members of an array. -/
def Item.settledContentType : Item → StateM Catalog ItemType
  | .map entries => do
    let value ← settledCover (entries.map (·.2))
    return .map (coverKeys (entries.map (·.1.type))) value
  | .array members => do
    let member ← settledCover members
    return .array member
  | i => pure i.runtimeType

mutual

/-- Whether an item is an instance of an item type. -/
def ItemType.settledHasInstance : ItemType → Item → StateM Catalog Bool
  | .item, _ => pure true
  | .map k v, .map entries => entries.allM fun e =>
    if e.1.type.subtypeOf k then v.settledHasInstance e.2 else pure false
  | .array m, .array members => members.allM fun v => m.settledHasInstance v
  | t, i => do (← i.settledContentType).settledSubtypeOf t

/-- Whether a sequence is an instance of a sequence type. -/
def SeqType.settledHasInstance : SeqType → Sequence → StateM Catalog Bool
  | .empty, v => pure v.isEmpty
  | .of t o k _, v =>
    if o.admits v.length then
      (if v.isHomogeneous then v.head?.toList else v).allM fun i => do
        if ← t.settledHasInstance i then return k.all (·.acceptsItem i) else return false
    else pure false

end

namespace SeqType

def settledCouldBe (s : SeqType) (t : AtomicType) : StateM Catalog Bool :=
  Option.isSome <$> s.itemType.settledIntersect? (.atomic t)

/-- Whether instances of a type may be promoted to a target. -/
def settledPromotable (s target : SeqType) : StateM Catalog Bool := do
  if (← s.settledIntersect? target).isSome then return true
  else if (s.occurrence.intersect? target.occurrence).isNone then return false
  else
    match target.itemType with
    | .atomic t =>
      if s.itemType.isUntyped then return !t.isNamespaceSensitive
      else
        match t with
        | .double => if ← s.settledCouldBe .float then return true else s.settledCouldBe .decimal
        | .float => s.settledCouldBe .decimal
        | .string => s.settledCouldBe .anyURI
        | _ => return false
    | t => return t.isFunction && s.itemType.isFunction

end SeqType

/-- Puts representatives for the types that the message of a cause shows. -/
def Cause.settle : Cause → StateM Catalog Cause
  | .wrongCount p _ target v => do
    let target ← target.settle
    let found ← v.settledStaticType
    return .wrongCount p found target v
  | .mismatch p _ target v => do
    let target ← target.settle
    let found ← v.settledStaticType
    return .mismatch p found target v
  | .notPromotable p _ target i => do
    let target ← target.settle
    let found ← Sequence.settledStaticType [i]
    return .notPromotable p found target i
  | c => pure c

end SequenceTypes
