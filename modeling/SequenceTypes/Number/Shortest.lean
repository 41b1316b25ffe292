import SequenceTypes.Number.Floating

/-! The text of floating-point numbers: the fewest decimal digits that read back as the number, written
positionally from a millionth to a million and with an exponent elsewhere. -/

namespace SequenceTypes

/-- The decimal number `digits * 10 ^ exponent`. -/
structure Digits where
  digits : Nat
  exponent : Int
  deriving DecidableEq

namespace Digits

/-- The quotient of `num / den` by a power of ten, as a fraction. -/
def scaleDown10 (num den : Nat) (power : Int) : Nat × Nat :=
  if 0 ≤ power then (num, den * Nat.pow 10 power.toNat) else (num * Nat.pow 10 (-power).toNat, den)

/-- The numbers that read back as `value`, in quarters of its last place: from `value - below` to
`value + above`, the ends included for an even significand. -/
structure Neighbourhood where
  value : Nat
  below : Nat
  above : Nat
  exponent : Int
  closed : Bool

/-- Below a power of two the neighbouring number is only half as far away. -/
def neighbourhood (f : FloatFormat) (significand : Nat) (exponent : Int) : Neighbourhood :=
  ⟨4 * significand, if significand = Nat.pow 2 f.fractionBits then 1 else 2, 2, exponent - 2,
    significand % 2 = 0⟩

/-- Looks for a multiple of a power of ten in the neighbourhood, trying ever smaller powers. Of two
hits the nearer one is taken, the upper one on a tie. -/
def search (b : Neighbourhood) : (tries : Nat) → (power : Int) → Digits
  | 0, power => ⟨0, power⟩
  | tries + 1, power =>
    let (unit, one) := Binary.fraction 1 b.exponent
    let (u, d) := scaleDown10 unit one power
    let q := b.value * u / d
    let r := b.value * u % d
    let down := r < b.below * u || (b.closed && r = b.below * u)
    let up := d < r + b.above * u || (b.closed && d = r + b.above * u)
    if up && (!down || d ≤ 2 * r) then ⟨q + 1, power⟩
    else if down then ⟨q, power⟩
    else search b tries (power - 1)

/-- The shortest digits of a positive number: the first power of ten tried is above it, and seventeen
digits always suffice. -/
def shortest (f : FloatFormat) (significand : Nat) (exponent : Int) : Digits :=
  let bits : Int := Int.ofNat significand.log2 + 2 + exponent
  search (neighbourhood f significand exponent) 24 ((bits * 30103).fdiv 100000 + 2)

/-- The number without exponent. -/
def positional (d : Digits) : List Char :=
  let ds := Nat.toDigits 10 d.digits
  if 0 ≤ d.exponent then ds ++ List.replicate d.exponent.toNat '0'
  else
    let places := (-d.exponent).toNat
    let ds := List.replicate (places + 1 - ds.length) '0' ++ ds
    ds.take (ds.length - places) ++ '.' :: ds.drop (ds.length - places)

/-- The number with one digit before the point, at least one after it, and an exponent. -/
def scientific (d : Digits) : List Char :=
  let ds := Nat.toDigits 10 d.digits
  let exponent := d.exponent + Int.ofNat ds.length - 1
  let rest := ds.drop 1
  ds.take 1 ++ '.' :: (if rest = [] then ['0'] else rest) ++ 'E' ::
    ((if exponent < 0 then ['-'] else []) ++ Nat.toDigits 10 exponent.natAbs)

end Digits

namespace Floating

variable {f : FloatFormat}

/-- Whether a magnitude is at least the double nearest to a millionth and below a million. -/
def isPositional (num den : Nat) : Bool :=
  let (n, d) := (ofFraction false 1 1000000 : Double).magnitude
  n * den ≤ num * d && num < 1000000 * den

def text (x : Floating f) : String :=
  match x.read with
  | .nan => "NaN"
  | .infinite negative => if negative then "-INF" else "INF"
  | .finite negative m e =>
    let (num, den) := Binary.fraction m e
    let digits :=
      if m = 0 then ['0']
      else if isPositional num den then (Digits.shortest f m e).positional
      else (Digits.shortest f m e).scientific
    String.ofList (if negative then '-' :: digits else digits)

end Floating
end SequenceTypes
