import SequenceTypes.Cast

/-! Checking and converting values against a declared type: `treat` asserts, `promote` applies the
function conversion rules. -/

namespace SequenceTypes

/-- Coerces a function, map or array to a function type of its arity. With `optimize`, an item that
matches already is not wrapped. -/
def Item.coerceTo (i : Item) (target : FunctionType) (optimize : Bool) : Except Cause Item :=
  match i.arity? with
  | none => .error (.notCoercible i target)
  | some arity =>
    match target.arity? with
    | none => .ok i
    | some expected =>
      if arity ≠ expected then .error (.notCoercible i target)
      else if optimize && (ItemType.function target).hasInstance i then .ok i
      else .ok (.coerced i target)

/-- Collects the items of a new sequence. -/
structure Builder (α : Type) where
  items : Array α

namespace Builder

variable {α ε : Type}

def empty : Builder α := ⟨#[]⟩

def ofList (v : List α) : Builder α := ⟨v.toArray⟩

def push (b : Builder α) (i : α) : Builder α := ⟨b.items.push i⟩

def append (b : Builder α) (v : List α) : Builder α := ⟨b.items ++ v.toArray⟩

def size (b : Builder α) : Nat := b.items.size

def isEmpty (b : Builder α) : Bool := b.items.isEmpty

def build (b : Builder α) : List α := b.items.toList

/-- Walks through the items still to come, after some that were `kept` as they are. A builder is started
at the first item that has to be converted. -/
def walk (keeps : α → Bool) (convert : α → Except ε (List α)) (kept : List α) (built : Option (Builder α)) :
    List α → Except ε (Option (Builder α))
  | [] => .ok built
  | i :: rest =>
    if keeps i then walk keeps convert (kept ++ [i]) (built.map (·.push i)) rest
    else do
      let converted ← convert i
      walk keeps convert kept (some ((built.getD (.ofList kept)).append converted)) rest

end Builder

namespace SeqType

/-- Asserts that a sequence is an instance; its static type may show it without a look at the items. -/
def treat (s : SeqType) (v : Sequence) (binding? : Option QName) : Except Cause Unit :=
  if v.staticType.subtypeOf s then .ok ()
  else if !s.occurrence.admits v.length then
    .error (.wrongCount (.ofBinding? binding?) v.staticType s v)
  else if s.hasInstance v then .ok ()
  else .error (.mismatch (.ofBinding? binding?) v.staticType s v)

end SeqType

structure PromoteOptions where
  /-- Leave functions that match already as they are. -/
  optimize : Bool

namespace PromoteOptions

def standard : PromoteOptions := ⟨false⟩

def optimized : PromoteOptions := ⟨true⟩

end PromoteOptions

/-- Numeric promotion and the promotion of URIs to strings. -/
def AtomicValue.promote? (a : AtomicValue) (target : AtomicType) : Option AtomicValue :=
  match target with
  | .double =>
    if a.type = .float || a.type.subtypeOf .decimal then a.toDouble?.map .double else none
  | .float => if a.type.subtypeOf .decimal then a.toSingle?.map .float else none
  | .string => if a.type = .anyURI then some (.string .string a.stringValue) else none
  | _ => none

namespace SeqType

/-- No rule converts an item. -/
def notPromotable (s : SeqType) (binding? : Option QName) (i : Item) : Cause :=
  .notPromotable (.ofBinding? binding?) (Sequence.staticType [i]) (s.withOccurrence .one) i

/-- Promotes one of the atomic values of an item: a value of a subtype is kept, untyped data is cast,
and numbers and URIs are promoted. -/
def promoteAtom (ctx : StaticContext) (s : SeqType) (binding? : Option QName) (target : AtomicType)
    (i : Item) (a : AtomicValue) : Except Cause (List AtomicValue) :=
  if a.type.subtypeOf target then .ok [a]
  else if a.type.isUntyped then
    if target.isNamespaceSensitive then .error (.namespaceSensitive i.runtimeType target)
    else target.cast ctx a
  else
    match a.promote? target with
    | some p => .ok [p]
    | none => .error (s.notPromotable binding? i)

/-- Converts an item that is no instance by the function conversion rules. -/
def promoteItem (ctx : StaticContext) (opts : PromoteOptions) (s : SeqType) (binding? : Option QName)
    (i : Item) : Except Cause Sequence :=
  match s.itemType with
  | .atomic target => do
    let atoms ← i.atomize
    let promoted ← atoms.mapM (s.promoteAtom ctx binding? target i)
    return promoted.flatten.map .atomic
  | .function target =>
    if i.isFunction then (i.coerceTo target opts.optimize).map ([·])
    else .error (s.notPromotable binding? i)
  | _ => .error (s.notPromotable binding? i)

/-- Promotes a sequence: items that match are kept, the others converted. Conversion may change the
number of items, which is then checked again. -/
def promote (ctx : StaticContext) (opts : PromoteOptions) (s : SeqType) (binding? : Option QName)
    (v : Sequence) : Except Cause Sequence :=
  let wrongCount := Cause.wrongCount (.ofBinding? binding?) v.staticType s v
  if !s.occurrence.admits v.length then .error wrongCount
  else if v.isHomogeneous && v.head?.all s.hasItem then .ok v
  else do
    match ← Builder.walk s.hasItem (s.promoteItem ctx opts binding?) [] none v with
    | none => .ok v
    | some b => if s.occurrence.admits b.size then .ok b.build else .error wrongCount

/-! ### Static prediction -/

/-- Whether some instances may be atomic values of a type. -/
def couldBe (s : SeqType) (t : AtomicType) : Bool := (s.itemType.intersect? (.atomic t)).isSome

/-- Whether instances of a type may be promoted to a target. -/
def promotable (s target : SeqType) : Bool :=
  if (s.intersect? target).isSome then true
  else if (s.occurrence.intersect? target.occurrence).isNone then false
  else
    match target.itemType with
    | .atomic t =>
      if s.itemType.isUntyped then !t.isNamespaceSensitive
      else
        match t with
        | .double => s.couldBe .float || s.couldBe .decimal
        | .float => s.couldBe .decimal
        | .string => s.couldBe .anyURI
        | _ => false
    | t => t.isFunction && s.itemType.isFunction

end SeqType
end SequenceTypes
