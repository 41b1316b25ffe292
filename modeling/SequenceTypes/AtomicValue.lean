import SequenceTypes.AtomicType
import SequenceTypes.Calendar.Time
import SequenceTypes.Name
import SequenceTypes.Number.Decimal
import SequenceTypes.Number.Shortest
import SequenceTypes.Text.Basic

/-! Atomic values: their types, their lexical forms, and their numeric value as floating-point numbers. -/

namespace SequenceTypes

inductive AtomicValue where
  /-- Data without type annotation. -/
  | untyped (text : String)
  /-- A value of `xs:string` or a type derived from it. -/
  | string (type : AtomicType) (text : String)
  | anyURI (text : String)
  | qname (name : QName)
  | boolean (value : Bool)
  | double (value : Double)
  | float (value : Single)
  | decimal (value : Decimal)
  /-- A value of `xs:integer` or a type derived from it. -/
  | integer (type : AtomicType) (value : Int64)
  | date (value : Date)
  | dateTime (value : DateTime)
  | time (value : Time)

namespace AtomicValue

/-- The type annotation. -/
def type : AtomicValue → AtomicType
  | untyped _ => .untyped
  | string t _ => t
  | anyURI _ => .anyURI
  | qname _ => .qname
  | boolean _ => .boolean
  | double _ => .double
  | float _ => .float
  | decimal _ => .decimal
  | integer t _ => t
  | date _ => .date
  | dateTime _ => .dateTime
  | time _ => .time

def integerText (n : Int) : String :=
  String.ofList ((if n < 0 then ['-'] else []) ++ Nat.toDigits 10 n.natAbs)

/-- The lexical form. -/
def stringValue : AtomicValue → String
  | untyped s | string _ s | anyURI s => s
  | qname q => q.text
  | boolean b => if b then "true" else "false"
  | double x => x.text
  | float x => x.text
  | decimal d => d.text
  | integer _ n => integerText n.toInt
  | date d => d.text
  | dateTime d => d.text
  | time t => t.text

/-- Whether the value is text that casts read: untyped data or a string. -/
def isTextual : AtomicValue → Bool
  | untyped _ | string _ _ => true
  | _ => false

def toDouble? : AtomicValue → Option Double
  | double x => some x
  | float x => some x.convert
  | decimal d => some d.toDouble
  | integer _ n => some (.ofInt n.toInt)
  | _ => none

def toSingle? : AtomicValue → Option Single
  | double x => some x.convert
  | float x => some x
  | decimal d => some d.toSingle
  | integer _ n => some (.ofInt n.toInt)
  | _ => none

/-- The value as an expression that yields it. -/
def text (a : AtomicValue) : String :=
  match a with
  | untyped s | string .string s => Text.quote s
  | integer .integer n => integerText n.toInt
  | boolean b => (if b then "true" else "false") ++ "()"
  | decimal d => if d.text.toList.contains '.' then d.text else d.text ++ ".0"
  | a => a.type.text ++ "(" ++ Text.quote a.stringValue ++ ")"

end AtomicValue
end SequenceTypes
