import SequenceTypes.Text.Basic

/-! Dates of the proleptic Gregorian calendar, with a year zero. Each reader of a part of a date or time takes
its part off the front of a text and gives the rest. Blanks may stand before a number, and nowhere else. -/

namespace SequenceTypes
namespace Calendar

def literal? (c : Char) : List Char → Option (List Char)
  | [] => none
  | d :: cs => if c = d then some cs else none

/-- Reads a number of at least one and at most `most` digits. -/
def number? (most : Nat) (cs : List Char) : Option (Nat × List Char) :=
  let cs := cs.dropWhile Text.isBlank
  let digits := (cs.take most).takeWhile Char.isDigit
  if digits = [] then none else some (Nat.ofDigitChars 10 digits 0, cs.drop digits.length)

/-- Reads a run of digits of any length. -/
def digits? (cs : List Char) : Option (Nat × List Char) :=
  let digits := cs.takeWhile Char.isDigit
  if digits = [] then none
  else some (Nat.ofDigitChars 10 digits 0, cs.dropWhile Char.isDigit)

/-- Reads a year: up to four digits, or any number of them after a sign. -/
def year? (cs : List Char) : Option (Int × List Char) :=
  match cs.dropWhile Text.isBlank with
  | '+' :: cs => (digits? cs).map fun (n, cs) => (Int.ofNat n, cs)
  | '-' :: cs => (digits? cs).map fun (n, cs) => (-Int.ofNat n, cs)
  | cs => (number? 4 cs).map fun (n, cs) => (Int.ofNat n, cs)

/-- The nanoseconds of the digits after a point: nine of them count. -/
def nanoseconds (digits : List Char) : Nat :=
  Nat.ofDigitChars 10 (digits.take 9) 0 * Nat.pow 10 (9 - digits.length)

/-- Reads the fraction of a second, zero if there is no point. -/
def fraction? : List Char → Option (Nat × List Char)
  | '.' :: cs =>
    let digits := cs.takeWhile Char.isDigit
    if digits = [] then none else some (nanoseconds digits, cs.dropWhile Char.isDigit)
  | cs => some (0, cs)

def isLeapYear (year : Int) : Bool := year % 4 = 0 && (year % 100 ≠ 0 || year % 400 = 0)

/-- The number of days of a month. -/
def daysInMonth (year : Int) (month : Nat) : Nat :=
  if month = 2 then (if isLeapYear year then 29 else 28)
  else if month = 4 || month = 6 || month = 9 || month = 11 then 30
  else 31

def minYear : Int := -262143

def maxYear : Int := 262142

/-- What the fields of a date have to satisfy. -/
def IsDate (year : Int) (month day : Nat) : Prop :=
  minYear ≤ year ∧ year ≤ maxYear ∧ 1 ≤ month ∧ month ≤ 12 ∧ 1 ≤ day ∧ day ≤ daysInMonth year month

instance (year : Int) (month day : Nat) : Decidable (IsDate year month day) :=
  inferInstanceAs (Decidable (_ ∧ _))

end Calendar

/-- An `xs:date`. -/
structure Date where
  year : Int
  month : Nat
  day : Nat
  valid : Calendar.IsDate year month day
  deriving DecidableEq

namespace Date

open Calendar

/-- The date with the given fields, if there is one. -/
def make? (year : Int) (month day : Nat) : Option Date :=
  if h : IsDate year month day then some ⟨year, month, day, h⟩ else none

/-- A year with at least four digits, and a sign outside 0 to 9999. -/
def yearChars (year : Int) : List Char :=
  let digits := Text.padded 4 year.natAbs
  if year < 0 then '-' :: digits else if 9999 < year then '+' :: digits else digits

def chars (d : Date) : List Char :=
  yearChars d.year ++ '-' :: Text.padded 2 d.month ++ '-' :: Text.padded 2 d.day

def text (d : Date) : String := String.ofList d.chars

/-- Reads a date off the front of a text. -/
def split? (cs : List Char) : Option (Date × List Char) := do
  let (year, cs) ← year? cs
  let cs ← literal? '-' cs
  let (month, cs) ← number? 2 cs
  let cs ← literal? '-' cs
  let (day, cs) ← number? 2 cs
  let date ← make? year month day
  some (date, cs)

/-- Reads a text that is a date. -/
def read? (cs : List Char) : Option Date :=
  match split? cs with
  | some (date, []) => some date
  | _ => none

end Date
end SequenceTypes
