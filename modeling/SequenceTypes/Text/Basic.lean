/-! Text as it is read and printed: the four space characters of XML with the facets that normalize them and
the wider set of blanks that readers of dates skip, numbers as digits, and quoted text. -/

namespace SequenceTypes.Text

/-- A space character of XML. -/
def isSpace (c : Char) : Bool := c = ' ' || c = '\t' || c = '\n' || c = '\r'

/-- A character with the Unicode property `White_Space`. -/
def isBlank (c : Char) : Bool :=
  let n := c.toNat
  (9 ≤ n && n ≤ 13) || n = 0x20 || n = 0x85 || n = 0xa0 || n = 0x1680 || (0x2000 ≤ n && n ≤ 0x200a) ||
    n = 0x2028 || n = 0x2029 || n = 0x202f || n = 0x205f || n = 0x3000

/-- The pieces of a text between its separators, empty ones included. -/
def fields (isSeparator : Char → Bool) : List Char → List (List Char)
  | [] => [[]]
  | c :: cs =>
    if isSeparator c then [] :: fields isSeparator cs
    else
      match fields isSeparator cs with
      | [] => [[c]]
      | f :: fs => (c :: f) :: fs

/-- The words of a text: its longest runs without space. -/
def words (cs : List Char) : List (List Char) := (fields isSpace cs).filter (· ≠ [])

/-- The facet `collapse`: the words with single spaces between them. -/
def collapse (cs : List Char) : List Char := [' '].intercalate (words cs)

/-- The facet `replace`: a blank for every space character. -/
def replaceSpaces (cs : List Char) : List Char := cs.map fun c => if isSpace c then ' ' else c

/-- Digits with zeros in front, up to a least width. -/
def zeroFill (width : Nat) (digits : List Char) : List Char :=
  List.replicate (width - digits.length) '0' ++ digits

/-- The digits of a number, filled up with zeros to a least width. -/
def padded (width n : Nat) : List Char := zeroFill width (Nat.toDigits 10 n)

/-- The number a list of ASCII digits stands for, `none` if another character is among them. -/
def ofDigits? (cs : List Char) : Option Nat :=
  if cs.all Char.isDigit then some (Nat.ofDigitChars 10 cs 0) else none

/-- The hexadecimal digits of a number, filled up with zeros to a least width. -/
def hexPadded (width n : Nat) : List Char := zeroFill width (Nat.toDigits 16 n)

def hexDigit? (c : Char) : Option Nat :=
  if c.isDigit then some (c.toNat - '0'.toNat)
  else if 'a' ≤ c ∧ c ≤ 'f' then some (c.toNat - 'a'.toNat + 10)
  else if 'A' ≤ c ∧ c ≤ 'F' then some (c.toNat - 'A'.toNat + 10)
  else none

/-- The number a list of hexadecimal digits stands for. -/
def ofHexDigits? (cs : List Char) : Option Nat :=
  (cs.mapM hexDigit?).map (·.foldl (fun n d => 16 * n + d) 0)

theorem ofDigitChars_padded (width n : Nat) : Nat.ofDigitChars 10 (padded width n) 0 = n := by
  simp [padded, zeroFill, Nat.ofDigitChars_append, Nat.ofDigitChars_ten_toDigits]

/-- The characters of a text with every quotation mark doubled. -/
def doubleQuotes : List Char → List Char
  | [] => []
  | c :: cs => if c = '"' then '"' :: '"' :: doubleQuotes cs else c :: doubleQuotes cs

def quote (s : String) : String := String.ofList ('"' :: doubleQuotes s.toList ++ ['"'])

end SequenceTypes.Text
