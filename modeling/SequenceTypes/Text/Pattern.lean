import SequenceTypes.Text.Basic
import SequenceTypes.Text.Category

/-! The patterns of the name-like string types. Each type down the tree narrows the one above it: an
`NCName` is a `Name` without colon, and a `Name` is an `NMTOKEN` that does not start with a digit. -/

namespace SequenceTypes.Text

open Category

/-- A character that may start an `NCName`. -/
def isNCNameStart (c : Char) : Bool := isLetter c || c = '_'

/-- A character of an `NCName`. -/
def isNCNameChar (c : Char) : Bool :=
  isLetter c || isNumber c || isMark c || c = '_' || c = '.' || c = '-'

def isNameStart (c : Char) : Bool := isNCNameStart c || c = ':'

def isNameChar (c : Char) : Bool := isNCNameChar c || c = ':'

/-- A name without colon. -/
def isNCName : List Char → Bool
  | [] => false
  | c :: cs => isNCNameStart c && cs.all isNCNameChar

/-- A name, colons allowed anywhere. -/
def isName : List Char → Bool
  | [] => false
  | c :: cs => isNameStart c && cs.all isNameChar

/-- A name token: name characters in any order. -/
def isNmtoken (cs : List Char) : Bool := cs ≠ [] && cs.all isNameChar

/-- A part of a language tag: one to eight characters of a class. -/
def isSubtag (isMember : Char → Bool) (cs : List Char) : Bool :=
  1 ≤ cs.length && cs.length ≤ 8 && cs.all isMember

/-- A language tag: letters, then any number of parts of letters and digits, joined by hyphens. -/
def isLanguage (cs : List Char) : Bool :=
  match fields (· = '-') cs with
  | [] => false
  | primary :: rest => isSubtag Char.isAlpha primary && rest.all (isSubtag Char.isAlphanum)

end SequenceTypes.Text
