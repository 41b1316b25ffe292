import SequenceTypes.Text.Basic

/-! Binary floating-point numbers, held as the bits of their interchange format and computed with
exactly: a number is read as a fraction of natural numbers, and a result is the nearest number of the
format, to even on a tie. -/

namespace SequenceTypes

/-- Rounds a quotient to the nearest natural number, a half to the even neighbour. -/
def roundEven (num den : Nat) : Nat :=
  let q := num / den
  let r := num % den
  if den < 2 * r || (den = 2 * r && q % 2 = 1) then q + 1 else q

/-- Rounds a quotient to the nearest natural number, a half upwards. -/
def roundHalfUp (num den : Nat) : Nat := (2 * num + den) / (2 * den)

/-- The quotient of `num / den` by a power of two, as a fraction. -/
def scaleDown (num den : Nat) (power : Int) : Nat × Nat :=
  if 0 ≤ power then (num, den * Nat.pow 2 power.toNat) else (num * Nat.pow 2 (-power).toNat, den)

/-- The power of two at or below a positive fraction, as an exponent. -/
def floorLog2 (num den : Nat) : Int :=
  let guess : Int := Int.ofNat num.log2 - Int.ofNat den.log2
  let (n, d) := scaleDown num den guess
  if d ≤ n then guess else guess - 1

/-- A binary interchange format. -/
structure FloatFormat where
  fractionBits : Nat
  exponentBits : Nat

namespace FloatFormat

/-- The format of `xs:double`. -/
def double : FloatFormat := ⟨52, 11⟩

/-- The format of `xs:float`. -/
def single : FloatFormat := ⟨23, 8⟩

def width (f : FloatFormat) : Nat := 1 + f.exponentBits + f.fractionBits

/-- The exponent of the smallest positive number. -/
def unitExponent (f : FloatFormat) : Int :=
  2 - Int.ofNat (Nat.pow 2 (f.exponentBits - 1)) - Int.ofNat f.fractionBits

/-- The bits of infinity without sign. -/
def infinityBits (f : FloatFormat) : Nat := (Nat.pow 2 f.exponentBits - 1) * Nat.pow 2 f.fractionBits

/-- The bits, without sign, of the number nearest to a fraction. -/
def nearestBits (f : FloatFormat) (num den : Nat) : Nat :=
  if num = 0 then 0
  else
    let unit := max f.unitExponent (floorLog2 num den - Int.ofNat f.fractionBits)
    let (n, d) := scaleDown num den unit
    min f.infinityBits ((unit - f.unitExponent).toNat * Nat.pow 2 f.fractionBits + roundEven n d)

end FloatFormat

/-- A number of a binary format. -/
structure Floating (f : FloatFormat) where
  bits : BitVec f.width
  deriving DecidableEq

/-- An `xs:double`. -/
abbrev Double := Floating .double

/-- An `xs:float`. -/
abbrev Single := Floating .single

/-- What the bits of a number say. -/
inductive Binary where
  | nan
  | infinite (negative : Bool)
  /-- The number `significand * 2 ^ exponent`. -/
  | finite (negative : Bool) (significand : Nat) (exponent : Int)
  deriving DecidableEq

namespace Binary

/-- The magnitude of a finite number as a fraction. -/
def fraction (significand : Nat) (exponent : Int) : Nat × Nat := scaleDown significand 1 (-exponent)

end Binary

namespace Floating

variable {f : FloatFormat}

/-- The number with a sign and the bits of a magnitude. -/
def ofMagnitude (negative : Bool) (magnitude : Nat) : Floating f :=
  ⟨BitVec.ofNat _ ((if negative then Nat.pow 2 (f.width - 1) else 0) + magnitude)⟩

def nan : Floating f := ofMagnitude false (f.infinityBits + Nat.pow 2 (f.fractionBits - 1))

def infinity (negative : Bool) : Floating f := ofMagnitude negative f.infinityBits

def ofFraction (negative : Bool) (num den : Nat) : Floating f :=
  ofMagnitude negative (f.nearestBits num den)

def ofInt (n : Int) : Floating f := ofFraction (n < 0) n.natAbs 1

def read (x : Floating f) : Binary :=
  let n := x.bits.toNat
  let fraction := n % Nat.pow 2 f.fractionBits
  let exponent := n / Nat.pow 2 f.fractionBits % Nat.pow 2 f.exponentBits
  let negative := decide (Nat.pow 2 (f.width - 1) ≤ n)
  if exponent = Nat.pow 2 f.exponentBits - 1 then
    if fraction = 0 then .infinite negative else .nan
  else if exponent = 0 then .finite negative fraction f.unitExponent
  else .finite negative (Nat.pow 2 f.fractionBits + fraction) (f.unitExponent + Int.ofNat exponent - 1)

def hex (x : Floating f) : String := String.ofList (Text.hexPadded (f.width / 4) x.bits.toNat)

/-- The number whose bits are given as hexadecimal digits. -/
def ofHex? (s : String) : Option (Floating f) :=
  if s.length = f.width / 4 then (Text.ofHexDigits? s.toList).map fun n => ⟨BitVec.ofNat _ n⟩ else none

def isNaN (x : Floating f) : Bool := x.read = .nan

def isFinite (x : Floating f) : Bool :=
  match x.read with
  | .finite _ _ _ => true
  | _ => false

/-- Whether the number is zero of either sign. -/
def isZero (x : Floating f) : Bool :=
  match x.read with
  | .finite _ m _ => m = 0
  | _ => false

/-- The nearest number of another format. -/
def convert {f g : FloatFormat} (x : Floating f) : Floating g :=
  match x.read with
  | .nan => nan
  | .infinite negative => infinity negative
  | .finite negative m e =>
    let (num, den) := Binary.fraction m e
    ofFraction negative num den

/-- The integer part, `none` if there is no finite number. -/
def trunc? (x : Floating f) : Option Int :=
  match x.read with
  | .finite negative m e =>
    let (num, den) := Binary.fraction m e
    let n := Int.ofNat (num / den)
    some (if negative then -n else n)
  | _ => none

/-- The magnitude of a finite number as a fraction, zero for the others. -/
def magnitude (x : Floating f) : Nat × Nat :=
  match x.read with
  | .finite _ m e => Binary.fraction m e
  | _ => (0, 1)

end Floating
end SequenceTypes
