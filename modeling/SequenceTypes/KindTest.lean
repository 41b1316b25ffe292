import SequenceTypes.Node

/-! Kind tests with a condition on the name, such as `element(foo)` or `attribute(*:id)`. They refine a
sequence type to the nodes they match. -/

namespace SequenceTypes

/-- A condition on the name of a node. -/
inductive NameTest where
  /-- The full name. -/
  | name (name : QName)
  /-- Any name of a namespace; the empty URI asks for names in none. -/
  | inNamespace (uri : String)
  /-- A local name in any namespace. -/
  | localName (localName : String)

namespace NameTest

/-- Equality of tests, up to the prefixes of names. -/
def beq : NameTest → NameTest → Bool
  | name a, name b => a == b
  | inNamespace a, inNamespace b => a = b
  | localName a, localName b => a = b
  | _, _ => false

instance : BEq NameTest := ⟨beq⟩

def hashData : NameTest → List HashPiece
  | name a => .number 0 :: a.hashData
  | inNamespace a => [.number 1, .text a]
  | localName a => [.number 2, .text a]

def accepts : NameTest → QName → Bool
  | name a, q => q == a
  | inNamespace uri, q => q.uri.getD "" = uri
  | localName l, q => q.localName = l

/-- The test for the names both tests accept, `none` if there are none. -/
def intersect? : NameTest → NameTest → Option NameTest
  | name a, t => if t.accepts a then some (name a) else none
  | t, name b => if t.accepts b then some (name b) else none
  | inNamespace a, inNamespace b => if a = b then some (inNamespace a) else none
  | localName a, localName b => if a = b then some (localName a) else none
  | inNamespace uri, localName l => some (name (.inNamespace uri l))
  | localName l, inNamespace uri => some (name (.inNamespace uri l))

/-- The argument of the kind test. -/
def text : NameTest → String
  | name a => a.text
  | inNamespace uri => QName.bracedUri uri ++ "*"
  | localName l => "*:" ++ l

end NameTest

/-- A test on the kind and name of a node. -/
structure KindTest where
  kind : NodeKind
  names : NameTest

namespace KindTest

instance : BEq KindTest := ⟨fun a b => a.kind = b.kind && a.names == b.names⟩

def hashData (t : KindTest) : List HashPiece := .number t.kind.ctorIdx :: t.names.hashData

/-- Whether a node is of the kind and has a name that is accepted. -/
def accepts (t : KindTest) (n : Node) : Bool :=
  n.kind.subtypeOf t.kind && n.name?.any t.names.accepts

/-- The test that accepts what both tests accept, `none` if their conditions exclude each other. -/
def intersect? (a b : KindTest) : Option KindTest := do
  let kind ← a.kind.intersect? b.kind
  let names ← a.names.intersect? b.names
  some ⟨kind, names⟩

/-- The argument of the kind test, without its keyword. -/
def text (t : KindTest) : String := t.names.text

end KindTest
end SequenceTypes
