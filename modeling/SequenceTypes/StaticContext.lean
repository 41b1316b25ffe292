import SequenceTypes.Cause
import SequenceTypes.Text.Pattern

/-! The context of a conversion: the namespaces in scope, and how much of an operand a message shows. -/

namespace SequenceTypes

/-- The context of a conversion. -/
structure StaticContext where
  /-- Prefixes with their URIs, in the order of their declaration. -/
  namespaces : List (String × String)
  defaultElementNamespace : Option String
  operandLimit : Nat

namespace StaticContext

/-- The context with the predeclared prefixes. -/
def initial : StaticContext :=
  ⟨[("xs", Namespace.schema), ("fn", Namespace.functions), ("xml", Namespace.xml)], none,
    defaultLimit⟩

/-- Binds a prefix in a list of bindings; a prefix bound before keeps its place. -/
def bindIn (p uri : String) : List (String × String) → List (String × String)
  | [] => [(p, uri)]
  | (q, u) :: rest => if q = p then (p, uri) :: rest else (q, u) :: bindIn p uri rest

def withNamespace (ctx : StaticContext) (p uri : String) : StaticContext :=
  { ctx with namespaces := bindIn p uri ctx.namespaces }

/-- Sets the namespace of names without prefix. -/
def withDefaultElementNamespace (ctx : StaticContext) (uri : String) : StaticContext :=
  { ctx with defaultElementNamespace := some uri }

def withOperandLimit (ctx : StaticContext) (limit : Nat) : StaticContext :=
  { ctx with operandLimit := limit }

def namespace? (ctx : StaticContext) (p : String) : Option String := ctx.namespaces.lookup p

/-- Splits a text at its first colon. -/
def splitColon (cs : List Char) : Option (List Char) × List Char :=
  match cs.dropWhile (· ≠ ':') with
  | [] => (none, cs)
  | _ :: rest => (some (cs.takeWhile (· ≠ ':')), rest)

/-- The name a lexical name stands for. Names without prefix are in the default element namespace. -/
def resolve (ctx : StaticContext) (cs : List Char) : Except Cause QName :=
  match splitColon cs with
  | (none, l) =>
    if Text.isNCName l then
      .ok (.ofParts none ctx.defaultElementNamespace (String.ofList l))
    else .error (.notRepresentable .qname (String.ofList cs))
  | (some p, l) =>
    if Text.isNCName l && Text.isNCName p then
      match ctx.namespace? (String.ofList p) with
      | some uri => .ok (.ofParts (some (String.ofList p)) (some uri) (String.ofList l))
      | none => .error (.unknownPrefix (String.ofList p))
    else .error (.notRepresentable .qname (String.ofList cs))

/-- The failure of a cause in this context. -/
def failure (ctx : StaticContext) (c : Cause) : Failure := c.failure ctx.operandLimit

end StaticContext
end SequenceTypes
