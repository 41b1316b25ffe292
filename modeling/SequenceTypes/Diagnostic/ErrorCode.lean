import SequenceTypes.Text.Basic

/-! Error codes: a class of four letters and a number written with four digits, as in `XPTY0004`. -/

namespace SequenceTypes

/-- The alphabetic part of an error code. -/
inductive ErrorClass where
  | xpst
  | xpty
  | xpdy
  | forg
  | foca
  | fons
  | foty
  deriving DecidableEq

namespace ErrorClass

def all : List ErrorClass := [xpst, xpty, xpdy, forg, foca, fons, foty]

def text : ErrorClass → String
  | xpst => "XPST"
  | xpty => "XPTY"
  | xpdy => "XPDY"
  | forg => "FORG"
  | foca => "FOCA"
  | fons => "FONS"
  | foty => "FOTY"

def ofText? (s : String) : Option ErrorClass := all.find? (·.text = s)

end ErrorClass

structure ErrorCode where
  category : ErrorClass
  number : Nat
  deriving DecidableEq

namespace ErrorCode

def text (c : ErrorCode) : String := c.category.text ++ String.ofList (Text.padded 4 c.number)

/-- Whether the error can be found without evaluating. -/
def isStatic (c : ErrorCode) : Bool := c.category = .xpst

def isType (c : ErrorCode) : Bool := c.category = .xpty

/-- Whether the error is raised while evaluating. -/
def isDynamic (c : ErrorCode) : Bool := !c.isStatic && !c.isType

def xpst0080 : ErrorCode := ⟨.xpst, 80⟩
def xpty0004 : ErrorCode := ⟨.xpty, 4⟩
def xpty0117 : ErrorCode := ⟨.xpty, 117⟩
def forg0001 : ErrorCode := ⟨.forg, 1⟩
def foca0002 : ErrorCode := ⟨.foca, 2⟩
def foca0003 : ErrorCode := ⟨.foca, 3⟩
def fons0004 : ErrorCode := ⟨.fons, 4⟩
def foty0013 : ErrorCode := ⟨.foty, 13⟩

def all : List ErrorCode :=
  [xpst0080, xpty0004, xpty0117, forg0001, foca0002, foca0003, fons0004, foty0013]

end ErrorCode
end SequenceTypes
