import SequenceTypes.Item
import SequenceTypes.StaticContext

/-! Casting. Text is read by the lexical rules of the target, numbers are converted to one another, and
the types derived from `xs:string` check their facets. -/

namespace SequenceTypes

/-- The typed value of a node. -/
def Node.typedValue (n : Node) : AtomicValue :=
  if n.kind.atomizesUntyped then .untyped n.stringValue else .string .string n.stringValue

mutual

/-- The atomic values of an item; those of an array are the values of its members in order. -/
def Item.atomize : Item → Except Cause (List AtomicValue)
  | .atomic a => .ok [a]
  | .node n => .ok [n.typedValue]
  | .array members => Item.atomizeMembers members
  | .function name? params result => .error (.notAtomizable (.function name? params result))
  | .coerced source type => .error (.notAtomizable (.coerced source type))
  | .map entries => .error (.notAtomizable (.map entries))

/-- The atomic values of the items of a sequence, in order. -/
def Sequence.atomize : Sequence → Except Cause (List AtomicValue)
  | [] => .ok []
  | i :: is => do
    let first ← i.atomize
    let rest ← Sequence.atomize is
    return first ++ rest

/-- The atomic values of the members of an array, in order. -/
def Item.atomizeMembers : List (List Item) → Except Cause (List AtomicValue)
  | [] => .ok []
  | m :: ms => do
    let first ← Sequence.atomize m
    let rest ← Item.atomizeMembers ms
    return first ++ rest

end

namespace Cast

/-- There is no cast from the value to the target. -/
def refuse {α : Type} (a : AtomicValue) (target : AtomicType) : Except Cause α :=
  .error (.noCast (.atomic a.type) (.atomic target) (.atomic a))

/-- The value, or the failure to represent a text in the target. -/
def orNotRepresentable {α : Type} (target : AtomicType) (text : String) : Option α → Except Cause α
  | some x => .ok x
  | none => .error (.notRepresentable target text)

/-- The value, or the failure of a text to stay in the range of the target. -/
def orOutOfRange {α : Type} (target : AtomicType) (text : String) : Option α → Except Cause α
  | some x => .ok x
  | none => .error (.outOfRange target text)

/-- The text of a derived string type: white space is normalized, and the pattern has to match. -/
def derivedText? (target : AtomicType) (cs : List Char) : Option (List Char) :=
  if target = .normalizedString then some (Text.replaceSpaces cs)
  else
    let normal := Text.collapse cs
    let valid :=
      match target with
      | .language => Text.isLanguage normal
      | .nmtoken => Text.isNmtoken normal
      | .name => Text.isName normal
      | .ncname => Text.isNCName normal
      | _ => true
    if valid then some normal else none

def toDerivedString (target : AtomicType) (text : String) : Except Cause AtomicValue :=
  orNotRepresentable target text
    ((derivedText? target text.toList).map fun cs => .string target (String.ofList cs))

/-- The truth value of a text. -/
def boolean? (cs : List Char) : Option Bool :=
  match String.ofList cs with
  | "true" | "1" => some true
  | "false" | "0" => some false
  | _ => none

/-- A number is true unless it is zero or not a number. -/
def toBoolean (a : AtomicValue) : Except Cause Bool :=
  if a.type.isNumeric then .ok (a.toDouble?.any fun x => !x.isZero && !x.isNaN)
  else if a.isTextual then
    orNotRepresentable .boolean a.stringValue (boolean? (Text.collapse a.stringValue.toList))
  else refuse a .boolean

/-- A double, for a target that is `xs:double` or the union of numbers. -/
def toDouble (target : AtomicType) (a : AtomicValue) : Except Cause Double :=
  match a with
  | .boolean b => .ok (.ofInt (if b then 1 else 0))
  | .untyped s | .string _ s =>
    orNotRepresentable target s (Double.read? (Text.collapse s.toList))
  | a => a.toDouble?.elim (refuse a target) .ok

def toSingle (a : AtomicValue) : Except Cause Single :=
  match a with
  | .boolean b => .ok (.ofInt (if b then 1 else 0))
  | .untyped s | .string _ s =>
    orNotRepresentable .float s ((Double.read? (Text.collapse s.toList)).map (·.convert))
  | a => a.toSingle?.elim (refuse a .float) .ok

/-- The decimal of a double, which must be finite and not too large. -/
def doubleToDecimal (text : String) (x : Double) : Except Cause Decimal :=
  if x.isFinite then orOutOfRange .decimal text (Decimal.ofDouble? x)
  else .error (.notRepresentable .decimal text)

def toDecimal (a : AtomicValue) : Except Cause Decimal :=
  match a with
  | .boolean b => .ok (.ofBool b)
  | .integer _ n => .ok (.ofInt64 n)
  | .double x => doubleToDecimal a.stringValue x
  | .float x => doubleToDecimal a.stringValue x.convert
  | .untyped s | .string _ s => do
    let l ← orNotRepresentable .decimal s (Literal.ofDecimal? (Text.collapse s.toList))
    orOutOfRange .decimal s (Decimal.ofLiteral? l)
  | a => refuse a .decimal

/-- The 64-bit integer of a value, if it has 64 bits. -/
def int64? (n : Int) : Option Int64 :=
  if Int64.minValue.toInt ≤ n ∧ n ≤ Int64.maxValue.toInt then some (Int64.ofInt n) else none

/-- The integer part of a double, which must be finite. -/
def doubleToInteger {f : FloatFormat} (target : AtomicType) (text : String) (x : Floating f) :
    Except Cause Int64 := do
  let n ← orNotRepresentable target text x.trunc?
  orOutOfRange target text (int64? n)

/-- The integer value before the range of the target is looked at. -/
def toInt64 (target : AtomicType) (a : AtomicValue) : Except Cause Int64 :=
  match a with
  | .boolean b => .ok (if b then 1 else 0)
  | .integer _ n => .ok n
  | .decimal d => orOutOfRange target a.stringValue (int64? d.trunc)
  | .double x => doubleToInteger target a.stringValue x
  | .float x => doubleToInteger target a.stringValue x
  | .untyped s | .string _ s => do
    let l ← orNotRepresentable target s (Literal.ofInteger? (Text.collapse s.toList))
    orOutOfRange target s (l.toInt?.bind int64?)
  | a => refuse a target

/-- Whether an integer is in the range of a type. -/
def inRange (target : AtomicType) (n : Int) : Bool :=
  match target with
  | .nonNegativeInteger => 0 ≤ n
  | .int => Int32.minValue.toInt ≤ n && n ≤ Int32.maxValue.toInt
  | _ => true

def toInteger (target : AtomicType) (a : AtomicValue) : Except Cause AtomicValue := do
  let n ← toInt64 target a
  if inRange target n.toInt then .ok (.integer target n)
  else .error (.notRepresentable target a.stringValue)

def toDate (a : AtomicValue) : Except Cause Date :=
  match a with
  | .dateTime t => .ok t.date
  | .untyped s | .string _ s => orNotRepresentable .date s (Date.read? (Text.collapse s.toList))
  | a => refuse a .date

def toDateTime (a : AtomicValue) : Except Cause DateTime :=
  match a with
  | .date d => .ok ⟨d, .midnight⟩
  | .untyped s | .string _ s =>
    orNotRepresentable .dateTime s (DateTime.read? (Text.collapse s.toList))
  | a => refuse a .dateTime

def toTime (a : AtomicValue) : Except Cause Time :=
  match a with
  | .dateTime t => .ok t.time
  | .untyped s | .string _ s => orNotRepresentable .time s (Time.read? (Text.collapse s.toList))
  | a => refuse a .time

/-- Converts a value to a type that is neither its own nor abstract nor a list type. -/
def convert (ctx : StaticContext) (target : AtomicType) (a : AtomicValue) : Except Cause AtomicValue :=
  match target with
  | .untyped => .ok (.untyped a.stringValue)
  | .string => .ok (.string .string a.stringValue)
  | .normalizedString | .token | .language | .nmtoken | .name | .ncname =>
    toDerivedString target a.stringValue
  | .anyURI =>
    if a.isTextual then .ok (.anyURI (String.ofList (Text.collapse a.stringValue.toList)))
    else refuse a target
  | .qname =>
    if a.isTextual then (ctx.resolve (Text.collapse a.stringValue.toList)).map .qname
    else refuse a target
  | .boolean => (toBoolean a).map .boolean
  | .numeric => if a.type.isNumeric then .ok a else (toDouble target a).map .double
  | .double => (toDouble target a).map .double
  | .float => (toSingle a).map .float
  | .decimal => (toDecimal a).map .decimal
  | .integer | .nonNegativeInteger | .long | .int => toInteger target a
  | .date => (toDate a).map .date
  | .dateTime => (toDateTime a).map .dateTime
  | .time => (toTime a).map .time
  | .anyAtomic | .notationName | .nmtokens => refuse a target

/-- Casts each word of a text to `xs:NMTOKEN`; there must be a word. -/
def toTokens (ctx : StaticContext) (target : AtomicType) (a : AtomicValue) :
    Except Cause (List AtomicValue) :=
  if a.isTextual then
    match Text.words a.stringValue.toList with
    | [] => .error (.notRepresentable target a.stringValue)
    | ws => ws.mapM fun w => convert ctx .nmtoken (.string .string (String.ofList w))
  else refuse a target

end Cast

/-- Casts a value to an atomic type. The result is a single value, but for list types, which give a value
for each token. -/
def AtomicType.cast (ctx : StaticContext) (target : AtomicType) (a : AtomicValue) :
    Except Cause (List AtomicValue) :=
  if a.type = target then .ok [a]
  else if target.isAbstract then .error (.abstractTarget target)
  else if target.isListLike then Cast.toTokens ctx target a
  else (Cast.convert ctx target a).map ([·])

/-- Casts an item to an item type: its single atomic value to an atomic type. -/
def ItemType.cast (ctx : StaticContext) (target : ItemType) (i : Item) : Except Cause Sequence :=
  match target with
  | .atomic t => do
    match ← i.atomize with
    | [a] => (t.cast ctx a).map (·.map .atomic)
    | _ => .error (.noCast i.runtimeType target i)
  | _ => .error (.noCast i.runtimeType target i)

namespace SeqType

/-- Casts an item to the item type. An item of that very type is kept; other results must pass the
test. -/
def castItem (ctx : StaticContext) (s : SeqType) (i : Item) : Except Cause Sequence :=
  if i.runtimeType == s.itemType then .ok [i]
  else do
    let result ← s.itemType.cast ctx i
    if result.all fun r => s.test?.all (·.acceptsItem r) then .ok result
    else .error (.testFailed s i.lexical)

/-- Casts a sequence item by item. -/
def cast (ctx : StaticContext) (s : SeqType) (v : Sequence) : Except Cause Sequence :=
  if s.occurrence.admits v.length then (v.mapM (s.castItem ctx)).map List.flatten
  else .error (.wrongCount .cast v.staticType s v)

def castable (ctx : StaticContext) (s : SeqType) (v : Sequence) : Bool := (s.cast ctx v).isOk

end SeqType
end SequenceTypes
