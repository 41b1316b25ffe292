import SequenceTypes.Text.Category
import SequenceTypes.Text.Basic
import SequenceTypes.Number.Floating

/-! Numbers as written: an optional sign, digits with an optional point, and for doubles an exponent. The
shape of a literal admits the decimal digits of every script; only ASCII digits have a value. -/

namespace SequenceTypes

/-- A literal without exponent. -/
structure Literal where
  negative : Bool
  /-- The digits before the point. -/
  whole : List Char
  /-- The digits after the point, `none` if there is no point. -/
  fraction? : Option (List Char)

namespace Literal

/-- Splits off a sign; true for a minus. -/
def splitSign : List Char → Bool × List Char
  | '-' :: cs => (true, cs)
  | '+' :: cs => (false, cs)
  | cs => (false, cs)

/-- Splits off the leading decimal digits. -/
def splitDigits (cs : List Char) : List Char × List Char :=
  (cs.takeWhile Text.Category.isDecimalDigit, cs.dropWhile Text.Category.isDecimalDigit)

/-- Reads a sign, digits and a point with digits, and gives the rest. There must be a digit before or
after the point. -/
def split? (cs : List Char) : Option (Literal × List Char) :=
  let (negative, cs) := splitSign cs
  let (whole, cs) := splitDigits cs
  match cs with
  | '.' :: cs =>
    let (fraction, cs) := splitDigits cs
    if whole = [] && fraction = [] then none else some (⟨negative, whole, some fraction⟩, cs)
  | cs => if whole = [] then none else some (⟨negative, whole, none⟩, cs)

/-- A text that is a sign and digits with an optional point. -/
def ofDecimal? (cs : List Char) : Option Literal :=
  match split? cs with
  | some (l, []) => some l
  | _ => none

/-- A text that is a sign and digits. -/
def ofInteger? (cs : List Char) : Option Literal :=
  match ofDecimal? cs with
  | some ⟨negative, whole, none⟩ => some ⟨negative, whole, none⟩
  | _ => none

/-- The sign and digits of an exponent. -/
def exponent? : List Char → Option (Bool × List Char)
  | [] => none
  | c :: cs =>
    if c = 'e' || c = 'E' then
      let (negative, cs) := splitSign cs
      if cs ≠ [] && cs.all Text.Category.isDecimalDigit then some (negative, cs) else none
    else none

/-- A text that is a sign, digits with an optional point and an optional exponent; an absent exponent
is given as zero. -/
def ofDouble? (cs : List Char) : Option (Literal × Bool × List Char) :=
  match split? cs with
  | some (l, []) => some (l, false, ['0'])
  | some (l, rest) => (exponent? rest).map fun e => (l, e)
  | none => none

/-- The value of an integer literal. -/
def toInt? (l : Literal) : Option Int :=
  (Text.ofDigits? l.whole).map fun n => if l.negative then -Int.ofNat n else Int.ofNat n

/-- The double nearest to `coefficient * 10 ^ power`. Far outside the range of doubles the power is
not computed: the result is infinity or zero. -/
def nearestDouble (negative : Bool) (coefficient : Nat) (power : Int) : Double :=
  let size := Int.ofNat (Nat.toDigits 10 coefficient).length + power
  if coefficient = 0 || size < -400 then .ofFraction negative 0 1
  else if 400 < size then .infinity negative
  else if 0 ≤ power then .ofFraction negative (coefficient * Nat.pow 10 power.toNat) 1
  else .ofFraction negative coefficient (Nat.pow 10 (-power).toNat)

/-- The double nearest to a literal with an exponent. -/
def toDouble? (l : Literal) (negativeExponent : Bool) (exponent : List Char) : Option Double := do
  let fraction := l.fraction?.getD []
  let coefficient ← Text.ofDigits? (l.whole ++ fraction)
  let e ← Text.ofDigits? exponent
  let power := (if negativeExponent then -Int.ofNat e else Int.ofNat e) - Int.ofNat fraction.length
  some (nearestDouble l.negative coefficient power)

end Literal

/-- Reads an `xs:double`: a number or one of the special values. -/
def Double.read? (cs : List Char) : Option Double :=
  match String.ofList cs with
  | "INF" | "+INF" => some (.infinity false)
  | "-INF" => some (.infinity true)
  | "NaN" => some .nan
  | _ => do
    let (l, negative, exponent) ← Literal.ofDouble? cs
    l.toDouble? negative exponent

end SequenceTypes
