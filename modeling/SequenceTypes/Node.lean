import SequenceTypes.Name
import SequenceTypes.Text.Basic

/-! Nodes, with the properties a type can ask about: kind, name and string value. -/

namespace SequenceTypes

/-- A kind of node, or any kind. -/
inductive NodeKind where
  | any
  | document
  | element
  | attributeNode
  | text
  | comment
  | processingInstruction
  | namespaceNode
  deriving DecidableEq

namespace NodeKind

def all : List NodeKind :=
  [any, document, element, attributeNode, text, comment, processingInstruction, namespaceNode]

/-- The keyword of the kind test. -/
def keyword : NodeKind → String
  | any => "node"
  | document => "document-node"
  | element => "element"
  | attributeNode => "attribute"
  | text => "text"
  | comment => "comment"
  | processingInstruction => "processing-instruction"
  | namespaceNode => "namespace-node"

def ofKeyword? (s : String) : Option NodeKind := all.find? (·.keyword = s)

/-- The kind test, with parentheses. -/
def testText (k : NodeKind) : String := k.keyword ++ "()"

/-- Whether nodes of this kind may hold untyped data; the others hold strings. -/
def atomizesUntyped : NodeKind → Bool
  | comment | processingInstruction | namespaceNode => false
  | _ => true

def subtypeOf (a b : NodeKind) : Bool := b = any || a = b

/-- The narrower of two kinds, one of which covers the other. -/
def intersect? (a b : NodeKind) : Option NodeKind :=
  if a = b then some a else if a = any then some b else if b = any then some a else none

end NodeKind

inductive Node where
  | document (content : String)
  | element (name : QName) (content : String)
  | attributeNode (name : QName) (value : String)
  | text (content : String)
  | comment (content : String)
  | processingInstruction (target content : String)
  /-- The binding of a prefix to a URI. -/
  | namespaceNode (bound uri : String)

namespace Node

def kind : Node → NodeKind
  | document _ => .document
  | element _ _ => .element
  | attributeNode _ _ => .attributeNode
  | text _ => .text
  | comment _ => .comment
  | processingInstruction _ _ => .processingInstruction
  | namespaceNode _ _ => .namespaceNode

/-- The name; instructions and namespace nodes are named by their target and prefix. -/
def name? : Node → Option QName
  | element name _ | attributeNode name _ => some name
  | processingInstruction target _ => some (.ofLocal target)
  | namespaceNode bound _ => some (.ofLocal bound)
  | document _ | text _ | comment _ => none

def stringValue : Node → String
  | document content | element _ content | attributeNode _ content | text content | comment content
  | processingInstruction _ content | namespaceNode _ content => content

/-- The node as markup. -/
def markup : Node → String
  | document content => "document \x7b " ++ Text.quote content ++ " \x7d"
  | element name content => "<" ++ name.text ++ ">" ++ content ++ "</" ++ name.text ++ ">"
  | attributeNode name value => name.text ++ "=" ++ Text.quote value
  | text content => content
  | comment content => "<!--" ++ content ++ "-->"
  | processingInstruction target content => "<?" ++ target ++ " " ++ content ++ "?>"
  | namespaceNode bound uri => "xmlns:" ++ bound ++ "=" ++ Text.quote uri

end Node
end SequenceTypes
