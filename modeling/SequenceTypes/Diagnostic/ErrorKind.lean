import SequenceTypes.Diagnostic.ErrorCode

/-! The kinds of failure, each with its code, its message template and, for some, a piece of advice.
The placeholders of a template are filled in order, and what is filled in is not looked at again. -/

namespace SequenceTypes

namespace Template

/-- Replaces each `%` by the next operand, by nothing once they are used up. -/
def fillChars : List Char → List String → List Char
  | [], _ => []
  | c :: cs, operands =>
    if c = '%' then
      match operands with
      | [] => fillChars cs []
      | o :: os => o.toList ++ fillChars cs os
    else c :: fillChars cs operands

/-- A template filled with operands; operands beyond the last placeholder are ignored. -/
def fill (template : String) (operands : List String) : String :=
  String.ofList (fillChars template.toList operands)

end Template

/-- What can go wrong when a value meets a type. -/
inductive ErrorKind where
  /-- The number of items is outside the range of the type. -/
  | cardinalityViolation
  /-- An item does not match the item type or the name test. -/
  | typeMismatch
  /-- There is no cast between the two types. -/
  | invalidCast
  /-- The value has no representation in the target type. -/
  | castImpossible
  /-- The value is beyond the value space of the target type. -/
  | valueOutOfRange
  /-- Untyped data was to become a value that depends on namespaces. -/
  | namespaceSensitivePromotion
  /-- No conversion rule applies to the item. -/
  | promotionImpossible
  /-- The target of the cast has no values of its own. -/
  | abstractCastTarget
  /-- A prefix is not bound to a namespace. -/
  | unknownPrefix
  /-- A function or map was to be atomized. -/
  | functionAtomization
  deriving DecidableEq

namespace ErrorKind

def all : List ErrorKind :=
  [cardinalityViolation, typeMismatch, invalidCast, castImpossible, valueOutOfRange,
    namespaceSensitivePromotion, promotionImpossible, abstractCastTarget, unknownPrefix,
    functionAtomization]

def text : ErrorKind → String
  | cardinalityViolation => "cardinality-violation"
  | typeMismatch => "type-mismatch"
  | invalidCast => "invalid-cast"
  | castImpossible => "cast-impossible"
  | valueOutOfRange => "value-out-of-range"
  | namespaceSensitivePromotion => "namespace-sensitive-promotion"
  | promotionImpossible => "promotion-impossible"
  | abstractCastTarget => "abstract-cast-target"
  | unknownPrefix => "unknown-prefix"
  | functionAtomization => "function-atomization"

def ofText? (s : String) : Option ErrorKind := all.find? (·.text = s)

def code : ErrorKind → ErrorCode
  | cardinalityViolation | typeMismatch | promotionImpossible | invalidCast => .xpty0004
  | castImpossible => .forg0001
  | valueOutOfRange => .foca0003
  | namespaceSensitivePromotion => .xpty0117
  | abstractCastTarget => .xpst0080
  | unknownPrefix => .fons0004
  | functionAtomization => .foty0013

/-- The message, with a `%` for each operand. -/
def template : ErrorKind → String
  | cardinalityViolation | typeMismatch | promotionImpossible => "%: %."
  | invalidCast => "Cannot cast % to %: %."
  | castImpossible => "Cannot cast to %: \"%\"."
  | valueOutOfRange => "Value out of range for %: %."
  | namespaceSensitivePromotion => "Cannot promote % to %."
  | abstractCastTarget => "Cannot cast to abstract type %."
  | unknownPrefix => "No namespace declared for prefix '%'."
  | functionAtomization => "Items of type % cannot be atomized: %."

/-- Advice shown beside the message. -/
def help? : ErrorKind → Option String
  | cardinalityViolation => some "Check the occurrence indicator of the declared type"
  | promotionImpossible => some
      "Only subtype substitution, untyped casting, numeric and URI promotion and function coercion are applied implicitly"
  | namespaceSensitivePromotion => some
      "Untyped data must be cast explicitly to namespace-sensitive types"
  | _ => none

/-- The message of a kind with its operands filled in. -/
def message (k : ErrorKind) (operands : List String) : String := Template.fill k.template operands

end ErrorKind
end SequenceTypes
