/-! Qualified names. Two names are equal if their namespace URIs and local parts are; the prefix is kept
for rendering only. A name in no namespace has no URI, and names put together from parts have none where
the URI is empty. -/

namespace SequenceTypes

/-- A piece of the data a hash is computed from. The pieces of a thing hold what equality looks at and
nothing else. -/
inductive HashPiece where
  /-- A count, or the place of a constructor among those of its type. -/
  | number (n : Nat)
  | text (s : String)
  deriving DecidableEq, Hashable

/-- What a name stands for: a local part, in a namespace or in none. -/
structure ExpandedName where
  uri : Option String
  localName : String
  deriving DecidableEq

/-- A name as written, with the prefix it was written with. -/
structure QName extends ExpandedName where
  nsPrefix : Option String

namespace QName

/-- A name from its parts, where the empty URI stands for no namespace. -/
def ofParts (nsPrefix uri : Option String) (localName : String) : QName :=
  ⟨⟨uri.filter (· ≠ ""), localName⟩, nsPrefix⟩

def ofLocal (localName : String) : QName := ofParts none none localName

/-- A name in a namespace, without prefix. -/
def inNamespace (uri localName : String) : QName := ofParts none (some uri) localName

instance : BEq QName := ⟨fun a b => a.toExpandedName == b.toExpandedName⟩

def hashData (a : QName) : List HashPiece :=
  match a.uri with
  | none => [.number 0, .text a.localName]
  | some uri => [.number 1, .text uri, .text a.localName]

instance : Hashable QName := ⟨fun a => hash a.hashData⟩

/-- A braced URI literal: the way a namespace is written in front of a name. -/
def bracedUri (uri : String) : String := "Q\x7b" ++ uri ++ "\x7d"

/-- The name as written: with its prefix, else with its URI, else the local part alone. -/
def text (q : QName) : String :=
  match q.nsPrefix, q.uri with
  | some p, _ => p ++ ":" ++ q.localName
  | none, some uri => bracedUri uri ++ q.localName
  | none, none => q.localName

end QName

namespace Namespace

/-- The namespace of the schema types. -/
def schema : String := "http://www.w3.org/2001/XMLSchema"

/-- The namespace of the standard functions. -/
def functions : String := "http://www.w3.org/2005/xpath-functions"

/-- The namespace bound to the prefix `xml`. -/
def xml : String := "http://www.w3.org/XML/1998/namespace"

end Namespace
end SequenceTypes
