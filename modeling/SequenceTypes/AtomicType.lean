/-! The built-in atomic types. They form a tree under `xs:anyAtomicType`: a type is a subtype of its
ancestors, the union of two types is their closest common ancestor, and two types overlap only if one
is derived from the other. The list type `xs:NMTOKENS` stands outside the tree. -/

namespace SequenceTypes

/-- A built-in atomic type. -/
inductive AtomicType where
  | anyAtomic
  | untyped
  | string
  | normalizedString
  | token
  | language
  | nmtoken
  | name
  | ncname
  | nmtokens
  | anyURI
  | qname
  | notationName
  | boolean
  | numeric
  | double
  | float
  | decimal
  | integer
  | nonNegativeInteger
  | long
  | int
  | date
  | dateTime
  | time
  deriving DecidableEq

namespace AtomicType

def all : List AtomicType :=
  [anyAtomic, untyped, string, normalizedString, token, language, nmtoken, name, ncname, nmtokens,
    anyURI, qname, notationName, boolean, numeric, double, float, decimal, integer,
    nonNegativeInteger, long, int, date, dateTime, time]

/-- The type a type is derived from. -/
def parent? : AtomicType → Option AtomicType
  | anyAtomic | nmtokens => none
  | untyped | string | anyURI | qname | notationName | boolean | numeric | date | dateTime | time =>
    some anyAtomic
  | normalizedString => some string
  | token => some normalizedString
  | language | nmtoken | name => some token
  | ncname => some name
  | double | float | decimal => some numeric
  | integer => some decimal
  | nonNegativeInteger | long => some integer
  | int => some long

/-- The name with its `xs` prefix. -/
def text : AtomicType → String
  | anyAtomic => "xs:anyAtomicType"
  | untyped => "xs:untypedAtomic"
  | string => "xs:string"
  | normalizedString => "xs:normalizedString"
  | token => "xs:token"
  | language => "xs:language"
  | nmtoken => "xs:NMTOKEN"
  | name => "xs:Name"
  | ncname => "xs:NCName"
  | nmtokens => "xs:NMTOKENS"
  | anyURI => "xs:anyURI"
  | qname => "xs:QName"
  | notationName => "xs:NOTATION"
  | boolean => "xs:boolean"
  | numeric => "xs:numeric"
  | double => "xs:double"
  | float => "xs:float"
  | decimal => "xs:decimal"
  | integer => "xs:integer"
  | nonNegativeInteger => "xs:nonNegativeInteger"
  | long => "xs:long"
  | int => "xs:int"
  | date => "xs:date"
  | dateTime => "xs:dateTime"
  | time => "xs:time"

def ofText? (s : String) : Option AtomicType := all.find? (·.text = s)

/-- The type and up to `steps` of its ancestors, nearest first. -/
def lineage : (steps : Nat) → AtomicType → List AtomicType
  | 0, t => [t]
  | steps + 1, t => t :: (t.parent?.map (lineage steps)).getD []

/-- The type and its ancestors, nearest first; no type is more than five derivations deep. -/
def ancestors (t : AtomicType) : List AtomicType := lineage 5 t

theorem ancestors_eq (t : AtomicType) : t.ancestors = t :: (t.parent?.map ancestors).getD [] := by
  cases t <;> rfl

/-- Derivation along the tree. -/
def subtypeOf (a b : AtomicType) : Bool := a.ancestors.contains b

/-- The closest common ancestor. -/
def union? (a b : AtomicType) : Option AtomicType := a.ancestors.find? (b.subtypeOf ·)

/-- The lower of two types on one branch. -/
def intersect? (a b : AtomicType) : Option AtomicType :=
  if a.subtypeOf b then some a else if b.subtypeOf a then some b else none

def isNumeric (t : AtomicType) : Bool := t.subtypeOf numeric

def isUntyped (t : AtomicType) : Bool := t = untyped

/-- Whether values can only be built with a set of in-scope namespaces. -/
def isNamespaceSensitive (t : AtomicType) : Bool := t.subtypeOf qname || t.subtypeOf notationName

def isListLike (t : AtomicType) : Bool := t = nmtokens

/-- Whether the type has no values of its own. -/
def isAbstract (t : AtomicType) : Bool := t = anyAtomic || t = notationName

def isStringLike (t : AtomicType) : Bool := t.subtypeOf string

def isIntegerLike (t : AtomicType) : Bool := t.subtypeOf integer

end AtomicType
end SequenceTypes
