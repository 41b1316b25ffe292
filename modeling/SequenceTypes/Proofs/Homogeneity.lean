import SequenceTypes.Promotion
import SequenceTypes.Proofs.LookupFunctions

/-! Sequences of atomic values of one type. A sequence can be marked as such when it is made, so that its
first item answers for all wherever a type is asked for; the sequences in a map or array carry marks of
their own. Every operation that looks at marks is written down with them here and meets the one without:
on a sequence with the right marks at every depth both give the same. However a sequence is made, also from
parts that are marked already, its marks are the right ones. -/

namespace SequenceTypes

mutual

/-- An item in which every sequence is marked. -/
inductive MarkedItem where
  | atomic (value : AtomicValue)
  | node (node : Node)
  | function (name? : Option QName) (params : List SeqType) (result : SeqType)
  | coerced (source : MarkedItem) (type : FunctionType)
  | map (entries : List (AtomicValue × MarkedSequence))
  | array (members : List MarkedSequence)

/-- A sequence with a mark that its items are atomic values of one type. -/
structure MarkedSequence where
  items : List MarkedItem
  homogeneous : Bool

end

mutual

/-- The item without marks. -/
def MarkedItem.erase : MarkedItem → Item
  | .atomic a => .atomic a
  | .node n => .node n
  | .function name? params result => .function name? params result
  | .coerced source type => .coerced source.erase type
  | .map entries => .map (MarkedItem.eraseEntries entries)
  | .array members => .array (MarkedItem.eraseMembers members)

def MarkedSequence.erase : MarkedSequence → Sequence
  | ⟨items, _⟩ => MarkedItem.eraseItems items

def MarkedItem.eraseItems : List MarkedItem → Sequence
  | [] => []
  | i :: is => i.erase :: MarkedItem.eraseItems is

def MarkedItem.eraseEntries : List (AtomicValue × MarkedSequence) → List (AtomicValue × List Item)
  | [] => []
  | (k, v) :: es => (k, v.erase) :: MarkedItem.eraseEntries es

def MarkedItem.eraseMembers : List MarkedSequence → List (List Item)
  | [] => []
  | v :: vs => v.erase :: MarkedItem.eraseMembers vs

end

namespace MarkedSequence

/-- The empty sequence is not marked. -/
def empty : MarkedSequence := ⟨[], false⟩

/-- A sequence with the mark its items call for. The marks inside the items stay what they are. -/
def ofItems (items : List MarkedItem) : MarkedSequence :=
  ⟨items, Sequence.isHomogeneous (MarkedItem.eraseItems items)⟩

/-- The most specific type, from the first item alone where the sequence is marked. -/
def staticType (v : MarkedSequence) : SeqType :=
  match v.items with
  | [] => .empty
  | first :: rest =>
    let type :=
      if v.homogeneous then first.erase.runtimeType
      else rest.foldl (fun t i => t.union i.erase.runtimeType) first.erase.runtimeType
    .make type (.ofSize (some (rest.length + 1))) none

/-- The type that covers some sequences, each with the type its mark shows. -/
def cover : List MarkedSequence → SeqType
  | [] => .empty
  | v :: vs => vs.foldl (fun s v => s.union v.staticType) v.staticType

end MarkedSequence

/-- The type of an item with the types of its content, which the marks inside show. -/
def MarkedItem.contentType : MarkedItem → ItemType
  | .map entries => .map (coverKeys (entries.map (·.1.type))) (MarkedSequence.cover (entries.map (·.2)))
  | .array members => .array (MarkedSequence.cover members)
  | i => i.erase.runtimeType

mutual

/-- Whether an item is an instance, with the marks of its content. -/
def ItemType.hasMarked : ItemType → MarkedItem → Bool
  | .item, _ => true
  | .map k v, .map entries => entries.all fun e => e.1.type.subtypeOf k && v.hasMarked e.2
  | .array m, .array members => members.all fun v => m.hasMarked v
  | t, i => i.contentType.subtypeOf t

/-- Whether a sequence is an instance, from the first item alone where the sequence is marked. -/
def SeqType.hasMarked : SeqType → MarkedSequence → Bool
  | .empty, v => v.items.isEmpty
  | .of t o k _, v =>
    o.admits v.items.length &&
      if v.homogeneous then v.items.head?.all fun i => t.hasMarked i && k.all (·.acceptsItem i.erase)
      else v.items.all fun i => t.hasMarked i && k.all (·.acceptsItem i.erase)

end

def MarkedItem.coerceTo (i : MarkedItem) (target : FunctionType) (optimize : Bool) :
    Except Cause MarkedItem :=
  match i.erase.arity? with
  | none => .error (.notCoercible i.erase target)
  | some arity =>
    match target.arity? with
    | none => .ok i
    | some expected =>
      if arity ≠ expected then .error (.notCoercible i.erase target)
      else if optimize && (ItemType.function target).hasMarked i then .ok i
      else .ok (.coerced i target)

namespace SeqType

/-- Whether an item matches the item type and the test, with the marks of its content. -/
def hasMarkedItem (s : SeqType) (i : MarkedItem) : Bool :=
  s.itemType.hasMarked i && s.test?.all (·.acceptsItem i.erase)

def treatMarked (s : SeqType) (v : MarkedSequence) (binding? : Option QName) : Except Cause Unit :=
  if v.staticType.subtypeOf s then .ok ()
  else if !s.occurrence.admits v.items.length then
    .error (.wrongCount (.ofBinding? binding?) v.staticType s v.erase)
  else if s.hasMarked v then .ok ()
  else .error (.mismatch (.ofBinding? binding?) v.staticType s v.erase)

def promoteMarkedItem (ctx : StaticContext) (opts : PromoteOptions) (s : SeqType)
    (binding? : Option QName) (i : MarkedItem) : Except Cause (List MarkedItem) :=
  match s.itemType with
  | .atomic target => do
    let atoms ← i.erase.atomize
    let promoted ← atoms.mapM (s.promoteAtom ctx binding? target i.erase)
    return promoted.flatten.map .atomic
  | .function target =>
    if i.erase.isFunction then (i.coerceTo target opts.optimize).map ([·])
    else .error (s.notPromotable binding? i.erase)
  | _ => .error (s.notPromotable binding? i.erase)

/-- Promotion that does not enter a marked sequence whose first item matches. What is built is marked
anew. -/
def promoteMarked (ctx : StaticContext) (opts : PromoteOptions) (s : SeqType) (binding? : Option QName)
    (v : MarkedSequence) : Except Cause MarkedSequence :=
  let wrongCount := Cause.wrongCount (.ofBinding? binding?) v.staticType s v.erase
  if !s.occurrence.admits v.items.length then .error wrongCount
  else if v.homogeneous && v.items.head?.all s.hasMarkedItem then .ok v
  else do
    match ← Builder.walk s.hasMarkedItem (s.promoteMarkedItem ctx opts binding?) [] none v.items with
    | none => .ok v
    | some b => if s.occurrence.admits b.size then .ok (.ofItems b.build) else .error wrongCount

end SeqType

/-! ### Right marks -/

mutual

/-- The item with the right mark on every sequence in it. -/
def Item.marked : Item → MarkedItem
  | .atomic a => .atomic a
  | .node n => .node n
  | .function name? params result => .function name? params result
  | .coerced source type => .coerced source.marked type
  | .map entries => .map (Item.markedEntries entries)
  | .array members => .array (Item.markedMembers members)

def Item.markedItems : List Item → List MarkedItem
  | [] => []
  | i :: is => i.marked :: Item.markedItems is

def Item.markedEntries : List (AtomicValue × List Item) → List (AtomicValue × MarkedSequence)
  | [] => []
  | (k, v) :: es => (k, ⟨Item.markedItems v, Sequence.isHomogeneous v⟩) :: Item.markedEntries es

def Item.markedMembers : List (List Item) → List MarkedSequence
  | [] => []
  | v :: vs => ⟨Item.markedItems v, Sequence.isHomogeneous v⟩ :: Item.markedMembers vs

end

/-- The sequence with the right marks at every depth. -/
def Sequence.marked (v : Sequence) : MarkedSequence := ⟨v.map Item.marked, v.isHomogeneous⟩

namespace Item

theorem markedItems_eq_map (v : List Item) : markedItems v = v.map marked := by
  induction v with
  | nil => rfl
  | cons i is ih => rw [markedItems, ih, List.map_cons]

theorem markedEntries_eq_map (es : List (AtomicValue × List Item)) :
    markedEntries es = es.map fun e => (e.1, Sequence.marked e.2) := by
  induction es with
  | nil => rfl
  | cons e es ih => rw [markedEntries, ih, markedItems_eq_map, List.map_cons, Sequence.marked]

theorem markedMembers_eq_map (vs : List (List Item)) : markedMembers vs = vs.map Sequence.marked := by
  induction vs with
  | nil => rfl
  | cons v vs ih => rw [markedMembers, ih, markedItems_eq_map, List.map_cons, Sequence.marked]

end Item

mutual

@[simp] theorem Item.erase_marked : (i : Item) → i.marked.erase = i
  | .atomic _ => rfl
  | .node _ => rfl
  | .function _ _ _ => rfl
  | .coerced source _ => by rw [Item.marked, MarkedItem.erase, source.erase_marked]
  | .map entries => by rw [Item.marked, MarkedItem.erase, Item.eraseEntries_marked entries]
  | .array members => by rw [Item.marked, MarkedItem.erase, Item.eraseMembers_marked members]

theorem Item.eraseItems_marked : (v : List Item) → MarkedItem.eraseItems (Item.markedItems v) = v
  | [] => rfl
  | i :: is => by
      rw [Item.markedItems, MarkedItem.eraseItems, i.erase_marked, Item.eraseItems_marked is]

theorem Item.eraseEntries_marked : (es : List (AtomicValue × List Item)) →
    MarkedItem.eraseEntries (Item.markedEntries es) = es
  | [] => rfl
  | (k, v) :: es => by
      rw [Item.markedEntries, MarkedItem.eraseEntries, MarkedSequence.erase, Item.eraseItems_marked v,
        Item.eraseEntries_marked es]

theorem Item.eraseMembers_marked : (vs : List (List Item)) →
    MarkedItem.eraseMembers (Item.markedMembers vs) = vs
  | [] => rfl
  | v :: vs => by
      rw [Item.markedMembers, MarkedItem.eraseMembers, MarkedSequence.erase, Item.eraseItems_marked v,
        Item.eraseMembers_marked vs]

end

namespace Sequence

@[simp] theorem erase_marked (v : Sequence) : v.marked.erase = v := by
  rw [marked, MarkedSequence.erase, ← Item.markedItems_eq_map, Item.eraseItems_marked]

theorem ofItems_marked (v : Sequence) : MarkedSequence.ofItems (v.map Item.marked) = v.marked := by
  rw [MarkedSequence.ofItems, ← Item.markedItems_eq_map, Item.eraseItems_marked,
    Item.markedItems_eq_map, marked]

theorem isHomogeneous_iff {v : Sequence} :
    v.isHomogeneous ↔ v ≠ [] ∧ ∃ t, ∀ i ∈ v, ∃ a, i = .atomic a ∧ a.type = t := by
  constructor
  · intro h
    cases v with
    | nil => cases h
    | cons first rest =>
        obtain ⟨a, rfl, hrest⟩ := isHomogeneous_cons h
        refine ⟨List.cons_ne_nil _ _, a.type, fun i hi => ?_⟩
        rcases List.mem_cons.1 hi with rfl | hi
        · exact ⟨a, rfl, rfl⟩
        · exact hrest i hi
  · rintro ⟨hne, t, hall⟩
    cases v with
    | nil => exact absurd rfl hne
    | cons first rest =>
        obtain ⟨a, rfl, rfl⟩ := hall first List.mem_cons_self
        refine List.all_eq_true.2 fun i hi => ?_
        obtain ⟨b, rfl, hb⟩ := hall i (List.mem_cons_of_mem _ hi)
        exact decide_eq_true hb

/-- The union of the types of all items, with the occurrence of the size. -/
def foldedType : Sequence → SeqType
  | [] => .empty
  | first :: rest =>
    .make (rest.foldl (fun t i => t.union i.runtimeType) first.runtimeType)
      (.ofSize (some (rest.length + 1))) none

theorem staticType_eq_foldedType (v : Sequence) : v.staticType = v.foldedType := by
  cases v with
  | nil => rfl
  | cons first rest =>
      rw [staticType, foldedType]
      split
      · next h =>
          obtain ⟨a, rfl, hrest⟩ := isHomogeneous_cons h
          have hsame : ∀ i ∈ rest, i.runtimeType = (Item.atomic a).runtimeType := by
            intro i hi
            obtain ⟨b, rfl, hb⟩ := hrest i hi
            exact congrArg ItemType.atomic hb
          rw [ItemType.foldl_union_of_forall_eq hsame]
      · rfl

end Sequence

/-- The type that covers some sequences, from all their items. -/
def coverFolded : List Sequence → SeqType
  | [] => .empty
  | v :: vs => vs.foldl (fun s v => s.union v.foldedType) v.foldedType

theorem coverFolded_eq (vs : List Sequence) : coverFolded vs = coverSequences vs := by
  have htypes : Sequence.foldedType = Sequence.staticType := by
    funext v
    exact v.staticType_eq_foldedType.symm
  cases vs with
  | nil => rfl
  | cons v vs => rw [coverFolded, coverSequences, htypes]

def Item.foldedContentType : Item → ItemType
  | .map entries => .map (coverKeys (entries.map (·.1.type))) (coverFolded (entries.map (·.2)))
  | .array members => .array (coverFolded members)
  | i => i.runtimeType

theorem Item.foldedContentType_eq (i : Item) : i.foldedContentType = i.contentType := by
  cases i with
  | map entries => rw [foldedContentType, contentType, coverFolded_eq]
  | array members => rw [foldedContentType, contentType, coverFolded_eq]
  | _ => rfl

mutual

/-- Whether an item is an instance, with all items of its content looked at. -/
def ItemType.hasByItems : ItemType → Item → Bool
  | .item, _ => true
  | .map k v, .map entries => entries.all fun e => e.1.type.subtypeOf k && v.hasByItems e.2
  | .array m, .array members => members.all fun v => m.hasByItems v
  | t, i => i.foldedContentType.subtypeOf t

/-- Whether a sequence is an instance, with all items looked at, at every depth. -/
def SeqType.hasByItems : SeqType → Sequence → Bool
  | .empty, v => v.isEmpty
  | .of t o k _, v => o.admits v.length && v.all fun i => t.hasByItems i && k.all (·.acceptsItem i)

end

mutual

theorem ItemType.hasByItems_eq : (t : ItemType) → (i : Item) → t.hasByItems i = t.hasInstance i
  | .item, i => by rw [ItemType.hasInstance_item, ItemType.hasByItems]
  | .atomic s, i => by
      rw [ItemType.atomic_hasInstance_eq, ← i.foldedContentType_eq, ItemType.hasByItems] <;> simp
  | .node k, i => by
      rw [ItemType.node_hasInstance_eq, ← i.foldedContentType_eq, ItemType.hasByItems] <;> simp
  | .function f, i => by
      rw [ItemType.function_hasInstance_eq, ← i.foldedContentType_eq, ItemType.hasByItems] <;> simp
  | .map k v, i => by
      cases i with
      | map entries =>
          have hvalue := SeqType.hasByItems_eq v
          simp only [ItemType.hasByItems, ItemType.hasInstance, hvalue]
      | _ => rw [ItemType.hasInstance, ItemType.hasByItems, Item.foldedContentType_eq] <;> simp
  | .array m, i => by
      cases i with
      | array members =>
          have hmember := SeqType.hasByItems_eq m
          simp only [ItemType.hasByItems, ItemType.hasInstance, hmember]
      | _ => rw [ItemType.hasInstance, ItemType.hasByItems, Item.foldedContentType_eq] <;> simp

theorem SeqType.hasByItems_eq : (s : SeqType) → (v : Sequence) → s.hasByItems v = s.hasInstance v
  | .empty, v => by cases v <;> rfl
  | .of t o k h, v => by
      have hitem := ItemType.hasByItems_eq t
      rw [Bool.eq_iff_iff, SeqType.hasInstance_iff, SeqType.hasByItems, Bool.and_eq_true,
        List.all_eq_true]
      simp only [hitem, SeqType.hasItem, SeqType.itemType, SeqType.test?, SeqType.occurrence]

end

namespace Sequence

theorem staticType_marked (v : Sequence) : v.marked.staticType = v.staticType := by
  cases v with
  | nil => rfl
  | cons first rest =>
      simp only [marked, MarkedSequence.staticType, staticType, List.map_cons, List.foldl_map,
        List.length_map, Item.erase_marked]

theorem cover_marked (vs : List Sequence) :
    MarkedSequence.cover (vs.map marked) = coverSequences vs := by
  cases vs with
  | nil => rfl
  | cons v vs =>
      simp only [List.map_cons, MarkedSequence.cover, coverSequences, List.foldl_map, staticType_marked]

end Sequence

theorem Item.contentType_marked (i : Item) : i.marked.contentType = i.contentType := by
  cases i with
  | map entries =>
      rw [marked, MarkedItem.contentType, contentType, markedEntries_eq_map, List.map_map, List.map_map,
        ← Sequence.cover_marked, List.map_map]
      rfl
  | array members =>
      rw [marked, MarkedItem.contentType, contentType, markedMembers_eq_map, Sequence.cover_marked]
  | _ => rfl

mutual

theorem ItemType.hasMarked_marked : (t : ItemType) → (i : Item) → t.hasMarked i.marked = t.hasInstance i
  | .item, i => by rw [ItemType.hasInstance_item, ItemType.hasMarked]
  | .atomic s, i => by
      rw [ItemType.atomic_hasInstance_eq, ← i.contentType_marked, ItemType.hasMarked] <;> simp
  | .node k, i => by
      rw [ItemType.node_hasInstance_eq, ← i.contentType_marked, ItemType.hasMarked] <;> simp
  | .function f, i => by
      rw [ItemType.function_hasInstance_eq, ← i.contentType_marked, ItemType.hasMarked] <;> simp
  | .map k v, i => by
      cases i with
      | map entries =>
          have hvalue := SeqType.hasMarked_marked v
          simp only [Item.marked, ItemType.hasMarked, ItemType.hasInstance, Item.markedEntries_eq_map,
            List.all_map, Function.comp_def, hvalue]
      | _ =>
          rw [ItemType.hasInstance, ItemType.hasMarked, Item.contentType_marked] <;>
            simp [Item.marked]
  | .array m, i => by
      cases i with
      | array members =>
          have hmember := SeqType.hasMarked_marked m
          simp only [Item.marked, ItemType.hasMarked, ItemType.hasInstance, Item.markedMembers_eq_map,
            List.all_map, Function.comp_def, hmember]
      | _ =>
          rw [ItemType.hasInstance, ItemType.hasMarked, Item.contentType_marked] <;>
            simp [Item.marked]

theorem SeqType.hasMarked_marked : (s : SeqType) → (v : Sequence) → s.hasMarked v.marked = s.hasInstance v
  | .empty, v => by cases v <;> rfl
  | .of t o k h, v => by
      have hitem := ItemType.hasMarked_marked t
      simp only [SeqType.hasMarked, SeqType.hasInstance, Sequence.marked, List.length_map, List.head?_map,
        Option.all_map, List.all_map, Function.comp_def, hitem, Item.erase_marked]

end

namespace Builder

variable {α β ε : Type}

def map (f : α → β) (b : Builder α) : Builder β := ⟨b.items.map f⟩

theorem map_push (f : α → β) (b : Builder α) (i : α) : (b.push i).map f = (b.map f).push (f i) := by
  simp [map, push]

theorem map_append (f : α → β) (b : Builder α) (v : List α) :
    (b.append v).map f = (b.map f).append (v.map f) := by
  simp [map, append]

theorem size_map (f : α → β) (b : Builder α) : (b.map f).size = b.size := by
  simp [map, size]

theorem build_map (f : α → β) (b : Builder α) : (b.map f).build = b.build.map f := by
  simp [map, build]

theorem map_ofList (f : α → β) (v : List α) : (ofList v).map f = ofList (v.map f) := by
  simp [map, ofList]

/-- If single items are kept and converted alike on both sides, so are all items of a sequence. -/
theorem walk_map {f : α → β} {keeps : α → Bool} {keeps' : β → Bool} {convert : α → Except ε (List α)}
    {convert' : β → Except ε (List β)} (hkeeps : ∀ i, keeps' (f i) = keeps i)
    (hconvert : ∀ i, convert' (f i) = (convert i).map (List.map f)) (kept : List α)
    (built : Option (Builder α)) (rest : List α) :
    walk keeps' convert' (kept.map f) (built.map (map f)) (rest.map f) =
      (walk keeps convert kept built rest).map (Option.map (map f)) := by
  induction rest generalizing kept built with
  | nil => rfl
  | cons i rest ih =>
      rw [List.map_cons, walk, walk, hkeeps, hconvert]
      by_cases hi : keeps i
      · have hkept : kept.map f ++ [f i] = (kept ++ [i]).map f := by rw [List.map_append]; rfl
        have hbuilt : (built.map (map f)).map (·.push (f i)) = (built.map (·.push i)).map (map f) := by
          simp only [Option.map_map, Function.comp_def, map_push]
        rw [if_pos hi, if_pos hi, hkept, hbuilt, ih]
      · rw [if_neg hi, if_neg hi]
        cases convert i with
        | error e => rfl
        | ok converted =>
            -- both sides start their builders here, if none was started before
            have hstart : (built.map (map f)).getD (ofList (kept.map f)) =
                (built.getD (ofList kept)).map f := by
              cases built with
              | none => exact (map_ofList f kept).symm
              | some b => rfl
            have hbuilt := ih kept (some ((built.getD (ofList kept)).append converted))
            rw [Option.map_some, map_append, ← hstart] at hbuilt
            exact hbuilt

end Builder

theorem Item.coerceTo_marked (i : Item) (target : FunctionType) (optimize : Bool) :
    i.marked.coerceTo target optimize = (i.coerceTo target optimize).map marked := by
  rw [MarkedItem.coerceTo, coerceTo, i.erase_marked, ItemType.hasMarked_marked]
  cases i.arity? with
  | none => rfl
  | some arity =>
      cases target.arity? with
      | none => rfl
      | some expected =>
          simp only
          split
          · rfl
          · split <;> rfl

namespace SeqType

variable {ctx : StaticContext} {opts : PromoteOptions} {s : SeqType} {binding? : Option QName}

theorem hasMarkedItem_marked (i : Item) : s.hasMarkedItem i.marked = s.hasItem i := by
  rw [hasMarkedItem, hasItem, ItemType.hasMarked_marked, i.erase_marked]

theorem treatMarked_marked (v : Sequence) : s.treatMarked v.marked binding? = s.treat v binding? := by
  rw [treatMarked, treat, hasMarked_marked, v.staticType_marked, v.erase_marked, Sequence.marked,
    List.length_map]

theorem promoteMarkedItem_marked (i : Item) :
    s.promoteMarkedItem ctx opts binding? i.marked =
      (s.promoteItem ctx opts binding? i).map (List.map Item.marked) := by
  rw [promoteMarkedItem, promoteItem, i.erase_marked]
  cases s.itemType with
  | atomic target =>
      simp only
      cases i.atomize with
      | error e => rfl
      | ok atoms =>
          have hatoms : ∀ promoted : List (List AtomicValue),
              promoted.flatten.map MarkedItem.atomic =
                (promoted.flatten.map Item.atomic).map Item.marked := by
            intro promoted
            rw [List.map_map]
            rfl
          cases h : atoms.mapM (s.promoteAtom ctx binding? target i) with
          | error e => simp [bind, Except.bind, h, Except.map]
          | ok promoted => simp [bind, Except.bind, h, Except.map, hatoms, pure, Except.pure]
  | function target =>
      simp only
      split
      · rw [i.coerceTo_marked]
        cases i.coerceTo target opts.optimize <;> rfl
      · rfl
  | _ => rfl

theorem promoteMarked_marked (v : Sequence) :
    s.promoteMarked ctx opts binding? v.marked =
      (s.promote ctx opts binding? v).map Sequence.marked := by
  have hhead : (v.map Item.marked).head?.all s.hasMarkedItem = v.head?.all s.hasItem := by
    rw [List.head?_map, Option.all_map]
    exact congrArg (v.head?.all ·) (funext hasMarkedItem_marked)
  have hwalk : Builder.walk s.hasMarkedItem (s.promoteMarkedItem ctx opts binding?) [] none
      (v.map Item.marked) =
        (Builder.walk s.hasItem (s.promoteItem ctx opts binding?) [] none v).map
          (Option.map (Builder.map Item.marked)) :=
    Builder.walk_map hasMarkedItem_marked promoteMarkedItem_marked [] none v
  rw [promoteMarked, promote, v.staticType_marked, v.erase_marked, Sequence.marked, List.length_map,
    hhead, hwalk]
  simp only
  split
  · rfl
  · split
    · rfl
    · cases Builder.walk s.hasItem (s.promoteItem ctx opts binding?) [] none v with
      | error e => rfl
      | ok built =>
          cases built with
          | none => rfl
          | some b =>
              -- what was built is marked anew, from items whose own marks are right already
              show (if s.occurrence.admits (b.map Item.marked).size then
                  Except.ok (MarkedSequence.ofItems (b.map Item.marked).build) else _) =
                Except.map Sequence.marked (if s.occurrence.admits b.size then Except.ok b.build else _)
              rw [Builder.size_map, Builder.build_map, Sequence.ofItems_marked]
              split <;> rfl

end SeqType

/-! ### Ways to make a sequence -/

mutual

/-- A way to make an item: the sequences in a map or array are made in ways of their own. -/
inductive ItemRecipe where
  | atomic (value : AtomicValue)
  | node (node : Node)
  | function (name? : Option QName) (params : List SeqType) (result : SeqType)
  | coerced (source : ItemRecipe) (type : FunctionType)
  | map (entries : List (AtomicValue × Recipe))
  | array (members : List Recipe)

inductive Recipe where
  | empty
  | single (item : ItemRecipe)
  | ofItems (items : List ItemRecipe)
  | build (filling : Filling)

inductive Filling where
  | new
  | push (before : Filling) (item : ItemRecipe)
  | extend (before : Filling) (added : Recipe)

end

mutual

def ItemRecipe.make : ItemRecipe → MarkedItem
  | .atomic a => .atomic a
  | .node n => .node n
  | .function name? params result => .function name? params result
  | .coerced source type => .coerced source.make type
  | .map entries => .map (ItemRecipe.makeEntries entries)
  | .array members => .array (ItemRecipe.makeMembers members)

def ItemRecipe.makeItems : List ItemRecipe → List MarkedItem
  | [] => []
  | i :: is => i.make :: ItemRecipe.makeItems is

def ItemRecipe.makeEntries : List (AtomicValue × Recipe) → List (AtomicValue × MarkedSequence)
  | [] => []
  | (k, v) :: es => (k, v.make) :: ItemRecipe.makeEntries es

def ItemRecipe.makeMembers : List Recipe → List MarkedSequence
  | [] => []
  | v :: vs => v.make :: ItemRecipe.makeMembers vs

def Recipe.make : Recipe → MarkedSequence
  | .empty => .empty
  | .single i => .ofItems [i.make]
  | .ofItems items => .ofItems (ItemRecipe.makeItems items)
  | .build filling => .ofItems filling.builder.build

/-- The builder that is filled; of a sequence that is added it takes the items and not the mark. -/
def Filling.builder : Filling → Builder MarkedItem
  | .new => .empty
  | .push before i => before.builder.push i.make
  | .extend before added => before.builder.append added.make.items

end

mutual

/-- The item a recipe stands for, without marks. -/
def ItemRecipe.item : ItemRecipe → Item
  | .atomic a => .atomic a
  | .node n => .node n
  | .function name? params result => .function name? params result
  | .coerced source type => .coerced source.item type
  | .map entries => .map (ItemRecipe.entries entries)
  | .array members => .array (ItemRecipe.members members)

def ItemRecipe.items : List ItemRecipe → List Item
  | [] => []
  | i :: is => i.item :: ItemRecipe.items is

def ItemRecipe.entries : List (AtomicValue × Recipe) → List (AtomicValue × List Item)
  | [] => []
  | (k, v) :: es => (k, v.items) :: ItemRecipe.entries es

def ItemRecipe.members : List Recipe → List (List Item)
  | [] => []
  | v :: vs => v.items :: ItemRecipe.members vs

/-- The items that go into a sequence, in order. -/
def Recipe.items : Recipe → Sequence
  | .empty => []
  | .single i => [i.item]
  | .ofItems items => ItemRecipe.items items
  | .build filling => filling.items

/-- The items that go into a builder, in order. -/
def Filling.items : Filling → Sequence
  | .new => []
  | .push before i => before.items ++ [i.item]
  | .extend before added => before.items ++ added.items

end

mutual

theorem ItemRecipe.make_eq : (r : ItemRecipe) → r.make = r.item.marked
  | .atomic _ => rfl
  | .node _ => rfl
  | .function _ _ _ => rfl
  | .coerced source _ => by
      rw [ItemRecipe.make, ItemRecipe.item, Item.marked, source.make_eq]
  | .map entries => by
      rw [ItemRecipe.make, ItemRecipe.item, Item.marked, ItemRecipe.makeEntries_eq entries]
  | .array members => by
      rw [ItemRecipe.make, ItemRecipe.item, Item.marked, ItemRecipe.makeMembers_eq members]

theorem ItemRecipe.makeItems_eq : (rs : List ItemRecipe) →
    ItemRecipe.makeItems rs = (ItemRecipe.items rs).map Item.marked
  | [] => rfl
  | r :: rs => by
      rw [ItemRecipe.makeItems, ItemRecipe.items, List.map_cons, r.make_eq, ItemRecipe.makeItems_eq rs]

theorem ItemRecipe.makeEntries_eq : (es : List (AtomicValue × Recipe)) →
    ItemRecipe.makeEntries es = Item.markedEntries (ItemRecipe.entries es)
  | [] => rfl
  | (k, r) :: es => by
      rw [ItemRecipe.makeEntries, ItemRecipe.entries, Item.markedEntries, r.make_eq,
        ItemRecipe.makeEntries_eq es, Item.markedItems_eq_map, Sequence.marked]

theorem ItemRecipe.makeMembers_eq : (rs : List Recipe) →
    ItemRecipe.makeMembers rs = Item.markedMembers (ItemRecipe.members rs)
  | [] => rfl
  | r :: rs => by
      rw [ItemRecipe.makeMembers, ItemRecipe.members, Item.markedMembers, r.make_eq,
        ItemRecipe.makeMembers_eq rs, Item.markedItems_eq_map, Sequence.marked]

/-- However a sequence is made, its marks are the right ones at every depth. -/
theorem Recipe.make_eq : (r : Recipe) → r.make = r.items.marked
  | .empty => rfl
  | .single i => by
      rw [Recipe.make, Recipe.items, i.make_eq]
      exact Sequence.ofItems_marked [i.item]
  | .ofItems is => by rw [Recipe.make, Recipe.items, ItemRecipe.makeItems_eq is, Sequence.ofItems_marked]
  | .build f => by rw [Recipe.make, Recipe.items, f.build_builder, Sequence.ofItems_marked]

theorem Filling.build_builder : (f : Filling) → f.builder.build = f.items.map Item.marked
  | .new => rfl
  | .push before i => by
      rw [Filling.builder, Filling.items, List.map_append, ← before.build_builder, i.make_eq]
      simp [Builder.build, Builder.push]
  | .extend before added => by
      rw [Filling.builder, Filling.items, List.map_append, ← before.build_builder, added.make_eq]
      simp [Builder.build, Builder.append, Sequence.marked]

end

/-- Marks are right and cannot be observed. A sequence made in whatever way, from parts made in whatever
way, carries the marks that a look at the items would give, at every depth; the outer one stands exactly if
there are items and they are atomic values of one type. With marks, without them, or with all items looked
at, the same sequences are instances, the static types are the same, assertions end alike, and promotion
fails alike or yields the same items, rightly marked again. -/
theorem Recipe.homogeneity_unobservable (r : Recipe) :
    (r.make.erase = r.items ∧ r.make = r.items.marked) ∧
    (r.make.homogeneous ↔ r.items ≠ [] ∧ ∃ t, ∀ i ∈ r.items, ∃ a, i = .atomic a ∧ a.type = t) ∧
    (∀ s : SeqType, s.hasMarked r.make = s.hasInstance r.items ∧
      s.hasMarked r.make = s.hasByItems r.items ∧
      (s.hasMarked r.make ↔
        s.occurrence.admits r.make.items.length ∧ ∀ i ∈ r.make.items, s.hasMarkedItem i)) ∧
    r.make.staticType = r.items.staticType ∧ r.make.staticType = r.items.foldedType ∧
    (∀ (s : SeqType) (binding? : Option QName), s.treatMarked r.make binding? = s.treat r.items binding?) ∧
    ∀ (ctx : StaticContext) (opts : PromoteOptions) (s : SeqType) (binding? : Option QName),
      s.promoteMarked ctx opts binding? r.make =
        (s.promote ctx opts binding? r.items).map Sequence.marked := by
  have hstatic := r.items.staticType_marked
  rw [r.make_eq]
  refine ⟨⟨r.items.erase_marked, rfl⟩, Sequence.isHomogeneous_iff, fun s => ?_, hstatic,
    hstatic.trans r.items.staticType_eq_foldedType, fun s _ => SeqType.treatMarked_marked _,
    fun ctx opts s _ => SeqType.promoteMarked_marked _⟩
  have hinstance := s.hasMarked_marked r.items
  refine ⟨hinstance, hinstance.trans (s.hasByItems_eq _).symm, ?_⟩
  rw [hinstance, SeqType.hasInstance_iff, Sequence.marked, List.length_map, List.forall_mem_map]
  simp only [SeqType.hasMarkedItem_marked]

end SequenceTypes
