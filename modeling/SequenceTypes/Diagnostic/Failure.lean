import SequenceTypes.Diagnostic.ErrorKind
import SequenceTypes.Diagnostic.Location

/-! Failures and how they are drafted: operands are added one by one, each cut to the limit in force
when it is added, and fill the template of the kind. -/

namespace SequenceTypes

/-- Cuts a text that is longer than `limit` characters and marks the cut with three dots. -/
def cut (limit : Nat) (text : String) : String :=
  if text.length ≤ limit then text
  else String.ofList (text.toList.take (limit - 3)) ++ "..."

/-- The limit on an operand where nothing else is said. -/
def defaultLimit : Nat := 64

/-- A failure with its rendered message. -/
structure Failure where
  kind : ErrorKind
  message : String
  location : Option Location
  /-- The binding that failed. -/
  context : Option String

namespace Failure

def code (f : Failure) : ErrorCode := f.kind.code

def text (f : Failure) : String := f.code.text ++ ": " ++ f.message

/-- Attaches a location to a failure that has none. -/
def locate (f : Failure) (l : Location) : Failure := { f with location := some (f.location.getD l) }

end Failure

/-- A failure being put together. -/
structure Draft where
  kind : ErrorKind
  operands : List String
  /-- The limit on operands added from here on. -/
  limit : Nat
  location : Option Location
  context : Option String

namespace Draft

def new (kind : ErrorKind) : Draft := ⟨kind, [], defaultLimit, none, none⟩

def withLimit (d : Draft) (limit : Nat) : Draft := { d with limit }

/-- Adds an operand, cut to the limit. -/
def operand (d : Draft) (text : String) : Draft :=
  { d with operands := d.operands ++ [cut d.limit text] }

/-- Adds an operand as it is. -/
def verbatim (d : Draft) (text : String) : Draft := { d with operands := d.operands ++ [text] }

def withLocation (d : Draft) (l : Location) : Draft := { d with location := some l }

def withContext (d : Draft) (context : String) : Draft := { d with context := some context }

def build (d : Draft) : Failure := ⟨d.kind, d.kind.message d.operands, d.location, d.context⟩

end Draft

/-- The failure of a kind with its operands. -/
def Failure.raise (kind : ErrorKind) (operands : List String) : Failure :=
  (operands.foldl Draft.operand (.new kind)).build

end SequenceTypes
