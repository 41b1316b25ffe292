import SequenceTypes.AtomicValue
import SequenceTypes.SeqType.Lattice

/-! Items and sequences of items, with the types that describe them and the check whether they are instances of
a type. The runtime type of a map or array says nothing about its content; its content type does. -/

namespace SequenceTypes

inductive Item where
  | atomic (value : AtomicValue)
  | node (node : Node)
  /-- A function with its own signature. -/
  | function (name? : Option QName) (params : List SeqType) (result : SeqType)
  /-- An item seen as a function of another type. -/
  | coerced (source : Item) (type : FunctionType)
  /-- A map with its entries in order. -/
  | map (entries : List (AtomicValue × List Item))
  /-- An array with its members in order. -/
  | array (members : List (List Item))

/-- A sequence of items. -/
abbrev Sequence := List Item

namespace Item

/-- The name of a function; a coerced function keeps the name it had. -/
def functionName? : Item → Option QName
  | function name? _ _ => name?
  | coerced source _ => source.functionName?
  | _ => none

def functionType? : Item → Option FunctionType
  | function _ params result => some (.of params result)
  | coerced _ type => some type
  | _ => none

/-- The number of arguments of a function, map or array; none are known for `function(*)`. -/
def arity? : Item → Option Nat
  | function _ params _ => some params.length
  | coerced _ type => some (type.arity?.getD 0)
  | map _ | array _ => some 1
  | _ => none

/-- Functions, maps and arrays. -/
def isFunction : Item → Bool
  | function _ _ _ | coerced _ _ | map _ | array _ => true
  | _ => false

/-- The type of an item, without looking into maps and arrays. -/
def runtimeType : Item → ItemType
  | atomic a => .atomic a.type
  | node n => .node n.kind
  | function _ params result => .function (.of params result)
  | coerced _ type => .function type
  | map _ => .anyMap
  | array _ => .anyArray

end Item

namespace Sequence

/-- Whether there are items, and all of them are atomic values of one type. -/
def isHomogeneous : Sequence → Bool
  | .atomic a :: rest => rest.all fun
    | .atomic b => b.type = a.type
    | _ => false
  | _ => false

/-- The most specific type of a sequence. Where all items are atomic values of one type, the first one
shows it. -/
def staticType : Sequence → SeqType
  | [] => .empty
  | first :: rest =>
    let type :=
      if isHomogeneous (first :: rest) then first.runtimeType
      else rest.foldl (fun t i => t.union i.runtimeType) first.runtimeType
    .make type (.ofSize (some (rest.length + 1))) none

end Sequence

/-- The closest type that covers some keys; `xs:anyAtomicType` if there are none. -/
def coverKeys : List AtomicType → AtomicType
  | [] => .anyAtomic
  | t :: ts => ts.foldl (fun s t => (s.union? t).getD .anyAtomic) t

/-- The type that covers some sequences; the empty-sequence type if there are none. -/
def coverSequences : List Sequence → SeqType
  | [] => .empty
  | v :: vs => vs.foldl (fun s v => s.union v.staticType) v.staticType

/-- The type of an item with the types of the entries of a map or the members of an array. -/
def Item.contentType : Item → ItemType
  | .map entries => .map (coverKeys (entries.map (·.1.type))) (coverSequences (entries.map (·.2)))
  | .array members => .array (coverSequences members)
  | i => i.runtimeType

/-- A reference to a function by name and arity. -/
def Item.reference (name? : Option QName) (arity : Nat) : String :=
  name?.elim "(anonymous-function)" QName.text ++ "#" ++ String.ofList (Nat.toDigits 10 arity)

mutual

/-- The item as shown in messages. -/
def Item.text : Item → String
  | .atomic a => a.text
  | .node n => n.markup
  | .function name? params _ => Item.reference name? params.length
  | .coerced source type => Item.reference source.functionName? (type.arity?.getD 0)
  | .map entries => "map\x7b" ++ Item.entriesText entries ++ "\x7d"
  | .array members => "[" ++ Item.membersText members ++ "]"

/-- The sequence as shown in messages: a single item stands alone, others in parentheses. -/
def Sequence.text : Sequence → String
  | [] => "()"
  | [i] => i.text
  | i :: j :: is => "(" ++ i.text ++ ", " ++ Item.itemsText (j :: is) ++ ")"

def Item.itemsText : List Item → String
  | [] => ""
  | [i] => i.text
  | i :: j :: is => i.text ++ ", " ++ Item.itemsText (j :: is)

/-- Entries of a map with commas between them. -/
def Item.entriesText : List (AtomicValue × List Item) → String
  | [] => ""
  | [(k, v)] => k.text ++ ":" ++ Sequence.text v
  | (k, v) :: e :: es => k.text ++ ":" ++ Sequence.text v ++ "," ++ Item.entriesText (e :: es)

/-- Members of an array with commas between them. -/
def Item.membersText : List (List Item) → String
  | [] => ""
  | [m] => Sequence.text m
  | m :: n :: ns => Sequence.text m ++ ", " ++ Item.membersText (n :: ns)

end

/-- The lexical form shown where a cast fails. -/
def Item.lexical : Item → String
  | .atomic a => a.stringValue
  | .node n => n.stringValue
  | i => i.text

/-- Whether an item is a node that the test accepts. -/
def KindTest.acceptsItem (k : KindTest) : Item → Bool
  | .node n => k.accepts n
  | _ => false

mutual

/-- Whether an item is an instance of an item type. Against a map or array type the content is checked entry by
entry; against any other type it is summed up in its content type first. -/
def ItemType.hasInstance : ItemType → Item → Bool
  | .item, _ => true
  | .map k v, .map entries => entries.all fun e => e.1.type.subtypeOf k && v.hasInstance e.2
  | .array m, .array members => members.all fun v => m.hasInstance v
  | t, i => i.contentType.subtypeOf t

/-- Whether a sequence is an instance of a sequence type. The first item answers for all where all are
atomic values of one type. -/
def SeqType.hasInstance : SeqType → Sequence → Bool
  | .empty, v => v.isEmpty
  | .of t o k _, v =>
    o.admits v.length &&
      if v.isHomogeneous then v.head?.all fun i => t.hasInstance i && k.all (·.acceptsItem i)
      else v.all fun i => t.hasInstance i && k.all (·.acceptsItem i)

end

/-- Whether an item matches the item type and the test of a sequence type. -/
def SeqType.hasItem (s : SeqType) (i : Item) : Bool :=
  s.itemType.hasInstance i && s.test?.all (·.acceptsItem i)

end SequenceTypes
