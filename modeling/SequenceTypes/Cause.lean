import SequenceTypes.Diagnostic.Failure
import SequenceTypes.Item
import SequenceTypes.SeqType.Text

/-! Why a conversion fails. A cause holds the types and values involved; their wording in a message is
decided here and nowhere else. -/

namespace SequenceTypes

/-- What a value was wanted for. -/
inductive Purpose where
  /-- To be cast. -/
  | cast
  /-- To be bound to a variable or parameter. -/
  | binding (name : QName)
  /-- To be returned from a function. -/
  | result

namespace Purpose

/-- The binding a value was wanted for, if there is one. -/
def ofBinding? : Option QName → Purpose
  | some name => binding name
  | none => result

/-- The variable a value was to be bound to. -/
def boundVariable? : Purpose → Option String
  | binding name => some ("$" ++ name.text)
  | _ => none

/-- The statement that a value of one type does not serve as another. -/
def complaint (p : Purpose) (found target : SeqType) : String :=
  match p with
  | cast => "Cannot cast " ++ found.text ++ " to " ++ target.text
  | binding name => "Cannot promote " ++ found.text ++ " to $" ++ name.text ++ " as " ++ target.text
  | result => "Cannot return " ++ found.text ++ " as " ++ target.text

end Purpose

/-- Why a conversion fails. -/
inductive Cause where
  /-- The number of items does not fit the target. -/
  | wrongCount (purpose : Purpose) (found target : SeqType) (value : Sequence)
  /-- An item is not an instance of the target. -/
  | mismatch (purpose : Purpose) (found target : SeqType) (value : Sequence)
  /-- No conversion rule applies to an item. -/
  | notPromotable (purpose : Purpose) (found target : SeqType) (item : Item)
  /-- An item is no function of the arity asked for. -/
  | notCoercible (item : Item) (target : FunctionType)
  /-- Untyped data does not become a value that depends on namespaces. -/
  | namespaceSensitive (source : ItemType) (target : AtomicType)
  /-- There is no cast between the types. -/
  | noCast (source target : ItemType) (item : Item)
  /-- The text denotes no value of the target. -/
  | notRepresentable (target : AtomicType) (text : String)
  /-- The result of a cast does not satisfy the test of the target. -/
  | testFailed (target : SeqType) (text : String)
  /-- The value is too large for the target. -/
  | outOfRange (target : AtomicType) (text : String)
  /-- The target has no values of its own. -/
  | abstractTarget (target : AtomicType)
  /-- A prefix is not bound. -/
  | unknownPrefix (written : String)
  /-- A function or map has no typed value. -/
  | notAtomizable (item : Item)

namespace Cause

def kind : Cause → ErrorKind
  | wrongCount _ _ _ _ => .cardinalityViolation
  | mismatch _ _ _ _ => .typeMismatch
  | notPromotable _ _ _ _ | notCoercible _ _ => .promotionImpossible
  | namespaceSensitive _ _ => .namespaceSensitivePromotion
  | noCast _ _ _ => .invalidCast
  | notRepresentable _ _ | testFailed _ _ => .castImpossible
  | outOfRange _ _ => .valueOutOfRange
  | abstractTarget _ => .abstractCastTarget
  | unknownPrefix _ => .unknownPrefix
  | notAtomizable _ => .functionAtomization

/-- The draft of a complaint about a value. -/
def complain (d : Draft) (p : Purpose) (found target : SeqType) (value : Sequence) : Draft :=
  let d := (d.verbatim (p.complaint found target)).operand value.text
  p.boundVariable?.elim d d.withContext

/-- The operands of the message. Coercion and atomization take place outside of any context and keep to
the default limit. -/
def draft (limit : Nat) (c : Cause) : Draft :=
  let d := (Draft.new c.kind).withLimit limit
  match c with
  | wrongCount p found target value | mismatch p found target value =>
    complain d p found target value
  | notPromotable p found target item => complain d p found target [item]
  | notCoercible item target =>
    ((Draft.new c.kind).verbatim
      ("Cannot coerce " ++ item.runtimeType.text ++ " to " ++ target.text)).operand item.text
  | namespaceSensitive source target => (d.operand source.text).operand target.text
  | noCast source target item => ((d.operand source.text).operand target.text).operand item.text
  | notRepresentable target text => (d.operand target.text).operand text
  | testFailed target text => (d.operand target.typeText).operand text
  | outOfRange target text => (d.operand target.text).operand text
  | abstractTarget target => d.operand target.text
  | unknownPrefix written => d.operand written
  | notAtomizable item => ((Draft.new c.kind).operand item.runtimeType.text).operand item.text

/-- The failure a cause is reported as. -/
def failure (limit : Nat) (c : Cause) : Failure := (c.draft limit).build

end Cause
end SequenceTypes
