import SequenceTypes.Number.Literal

/-! Decimal numbers: an integer coefficient of at most 96 bits with up to 28 digits after the point. The
scale is kept as it came about, so that `1.5` and `1.50` are different representations of one number. -/

namespace SequenceTypes

/-- The least number with more than 96 bits. -/
def Decimal.limit : Nat := Nat.pow 2 96

/-- The number `coefficient / 10 ^ scale`. -/
structure Decimal where
  coefficient : Int
  scale : Nat
  coefficient_lt : coefficient.natAbs < Decimal.limit
  scale_le : scale ≤ 28
  deriving DecidableEq

namespace Decimal

/-- The decimal of a coefficient and scale that are small enough. -/
def make? (coefficient : Int) (scale : Nat) : Option Decimal :=
  if h : coefficient.natAbs < limit ∧ scale ≤ 28 then some ⟨coefficient, scale, h.1, h.2⟩ else none

theorem natAbs_toInt_lt_limit (n : Int64) : n.toInt.natAbs < limit := by
  have hlower := n.le_toInt
  have hupper := n.toInt_lt
  simp only [limit, Nat.pow_eq]
  omega

def ofInt64 (n : Int64) : Decimal := ⟨n.toInt, 0, natAbs_toInt_lt_limit n, by omega⟩

def ofBool (b : Bool) : Decimal := ⟨if b then 1 else 0, 0, by cases b <;> decide, by omega⟩

/-- Drops trailing zeros after the point. -/
def trim : (coefficient scale : Nat) → Nat × Nat
  | n, 0 => (n, 0)
  | n, scale + 1 => if n % 10 = 0 then trim (n / 10) scale else (n, scale + 1)

/-- Digits with a point before the last `scale` of them. -/
def point (digits : List Char) (scale : Nat) : List Char :=
  if scale = 0 then digits
  else digits.take (digits.length - scale) ++ '.' :: digits.drop (digits.length - scale)

/-- The number without exponent and without trailing zeros. -/
def text (d : Decimal) : String :=
  let (n, scale) := trim d.coefficient.natAbs d.scale
  let digits := point (Text.padded (scale + 1) n) scale
  String.ofList (if d.coefficient < 0 then '-' :: digits else digits)

/-- Ends a coefficient at the first digit that does not fit: that digit rounds, and the digits after it
are dropped. -/
def roundAt (coefficient scale digit : Nat) : Option (Nat × Nat) :=
  if digit < 5 then some (coefficient, scale)
  else if coefficient + 1 < limit then some (coefficient + 1, scale)
  else if scale = 0 then none
  else some ((coefficient + 5) / 10, scale - 1)

/-- Appends the digits after the point, as long as coefficient and scale permit. Characters behind the digit
that rounds are not looked at. -/
def readFraction : (coefficient scale : Nat) → List Char → Option (Nat × Nat)
  | n, scale, [] => some (n, scale)
  | n, scale, c :: cs =>
    if c.isDigit then
      let digit := c.toNat - '0'.toNat
      if scale = 28 || limit ≤ 10 * n + digit then roundAt n scale digit
      else readFraction (10 * n + digit) (scale + 1) cs
    else none

/-- The decimal nearest to a literal, `none` if its integer part is too large or a digit that is read is not
ASCII. A point without digits after it counts as one zero. -/
def ofLiteral? (l : Literal) : Option Decimal := do
  let fraction := l.fraction?.elim [] fun ds => if ds = [] then ['0'] else ds
  let whole ← Text.ofDigits? l.whole
  if limit ≤ whole then none
  else
    let (n, scale) ← readFraction whole 0 fraction
    make? (if l.negative then -Int.ofNat n else Int.ofNat n) scale

/-! ### From doubles -/

/-- A number `coefficient * 10 ^ power` that has still to be multiplied or divided by a power of two
or five. -/
structure Scaled where
  coefficient : Nat
  power : Int

/-- Trades `count` negative powers of two for powers of ten. An odd coefficient is multiplied by five,
or loses its last bit where there is no room. -/
def spendHalves : (count : Nat) → Scaled → Scaled
  | 0, p => p
  | count + 1, p =>
    if p.coefficient % 2 = 0 then spendHalves count ⟨p.coefficient / 2, p.power + 1⟩
    else if 5 * p.coefficient < limit then spendHalves count ⟨5 * p.coefficient, p.power⟩
    else spendHalves count ⟨p.coefficient / 2, p.power + 1⟩

/-- Trades `count` powers of two for powers of ten: the coefficient is doubled while there is room, and
then divided by five. -/
def spendTwos? : (count : Nat) → Scaled → Option Scaled
  | 0, p => some p
  | count + 1, p =>
    if 2 * p.coefficient < limit then spendTwos? count ⟨2 * p.coefficient, p.power - 1⟩
    else if Int.ofNat (count + 1) < p.power * 2 then none
    else spendTwos? count ⟨p.coefficient / 5, p.power⟩

/-- Multiplies by ten until no positive power of ten is left. -/
def spendTens? : (count coefficient : Nat) → Option Nat
  | 0, n => some n
  | count + 1, n => if 10 * n < limit then spendTens? count (10 * n) else none

/-- Drops the last digit, a half upwards. -/
def dropDigit (n : Nat) : Nat := if 5 ≤ n % 10 then n / 10 + 1 else n / 10

/-- Drops `count` digits one by one; gives zero as soon as no digit is left. -/
def dropDigits : (count coefficient : Nat) → Option Nat
  | 0, n => some n
  | count + 1, n => if n / 10 = 0 then none else dropDigits count (dropDigit n)

/-- Drops digits after the point that a double does not determine. -/
def dropExcess : (scale coefficient : Nat) → Nat × Nat
  | 0, n => (n, 0)
  | scale + 1, n => if Nat.pow 2 52 ≤ n then dropExcess scale (dropDigit n) else (n, scale + 1)

/-- The coefficient and scale of a positive double `significand * 2 ^ exponent`. -/
def ofBinary? (significand : Nat) (exponent : Int) : Option (Nat × Nat) := do
  let start : Scaled := ⟨significand, exponent⟩
  let p ← if exponent < 0 then some (spendHalves (-exponent).toNat start)
    else spendTwos? exponent.toNat start
  if 0 ≤ p.power then
    let n ← spendTens? p.power.toNat p.coefficient
    some (n, 0)
  else
    let places := (-p.power).toNat
    match dropDigits (places - 28) p.coefficient with
    | none => some (0, 0)
    | some n =>
      let (n, scale) := dropExcess (min places 28) n
      some (trim n scale)

/-- The decimal of a finite double, `none` if it is too large. -/
def ofDouble? (x : Double) : Option Decimal :=
  match x.read with
  | .finite negative m e =>
    if m = 0 then make? 0 0
    else do
      let (n, scale) ← ofBinary? m e
      make? (if negative then -Int.ofNat n else Int.ofNat n) scale
  | _ => none

/-- The nearest double to a quotient of doubles given as fractions. -/
def nearest (num den : Nat) : Nat × Nat := (Floating.ofFraction false num den : Double).magnitude

/-- The magnitude of a decimal with a fraction as a double: integer part and fraction are converted
apart, added, and rounded to the places of the scale. -/
def fractionToDouble (magnitude scale : Nat) : Nat × Nat :=
  let tens := Nat.pow 10 scale
  let (wn, wd) := nearest (magnitude / tens) 1
  let (tn, td) := nearest tens 1
  let (rn, rd) := nearest (magnitude % tens) 1
  let (fn, fd) := nearest (rn * td) (rd * tn)
  if fn = 0 then (wn, wd)
  else
    let (sn, sd) := nearest (wn * fd + fn * wd) (wd * fd)
    let (pn, pd) := nearest (sn * tn) (sd * td)
    nearest (roundHalfUp pn pd * td) tn

def toDouble (d : Decimal) : Double :=
  if d.scale = 0 then .ofInt d.coefficient
  else
    let (num, den) := fractionToDouble d.coefficient.natAbs d.scale
    .ofFraction (d.coefficient < 0) num den

def toSingle (d : Decimal) : Single := d.toDouble.convert

/-- The integer part. -/
def trunc (d : Decimal) : Int := d.coefficient.tdiv (Int.ofNat (Nat.pow 10 d.scale))

end Decimal
end SequenceTypes
