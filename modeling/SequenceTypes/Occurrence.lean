/-! Occurrence indicators: the five ranges of item counts a sequence type may ask for. Every operation
on ranges snaps its result back to one of the five. -/

namespace SequenceTypes

/-- How many items a sequence may have. -/
inductive Occurrence where
  /-- No item: `empty-sequence()`. -/
  | zero
  /-- At most one item: `?`. -/
  | zeroOne
  /-- Exactly one item, written without indicator. -/
  | one
  /-- At least one item: `+`. -/
  | oneMore
  /-- Any number of items: `*`. -/
  | zeroMore
  deriving DecidableEq

namespace Occurrence

def all : List Occurrence := [zero, zeroOne, one, oneMore, zeroMore]

def lower : Occurrence → Nat
  | zero | zeroOne | zeroMore => 0
  | one | oneMore => 1

/-- The largest admitted count, `none` where there is no bound. -/
def upper? : Occurrence → Option Nat
  | zero => some 0
  | zeroOne | one => some 1
  | oneMore | zeroMore => none

/-- The number reported where there is no bound: the largest 64-bit count. -/
def unbounded : Nat := UInt64.size - 1

/-- The indicator as written after an item type. -/
def suffix : Occurrence → String
  | zero | one => ""
  | zeroOne => "?"
  | oneMore => "+"
  | zeroMore => "*"

/-- Whether a sequence of `count` items is in the range. -/
def admits (o : Occurrence) (count : Nat) : Bool :=
  o.lower ≤ count && o.upper?.all (count ≤ ·)

def boundLe : Option Nat → Option Nat → Bool
  | _, none => true
  | none, some _ => false
  | some m, some n => m ≤ n

def boundMin : Option Nat → Option Nat → Option Nat
  | none, n => n
  | m, none => m
  | some m, some n => some (min m n)

def boundMax : Option Nat → Option Nat → Option Nat
  | some m, some n => some (max m n)
  | _, _ => none

/-- Containment of ranges. -/
def subtypeOf (a b : Occurrence) : Bool :=
  b.lower ≤ a.lower && boundLe a.upper? b.upper?

/-- The indicator of a range; one that no indicator names is widened to the next that covers it. -/
def ofRange (lower : Nat) (upper? : Option Nat) : Occurrence :=
  match upper? with
  | none => if lower = 0 then zeroMore else oneMore
  | some upper =>
    if upper = 0 then zero
    else if lower = upper then one
    else if upper = 1 then zeroOne
    else if lower = 0 then zeroMore
    else oneMore

/-- The counts admitted by both, `none` if there is no such count. -/
def intersect? (a b : Occurrence) : Option Occurrence :=
  let lower := max a.lower b.lower
  let upper := boundMin a.upper? b.upper?
  if boundLe (some lower) upper then some (ofRange lower upper) else none

/-- The smallest range that covers both. -/
def union (a b : Occurrence) : Occurrence :=
  ofRange (min a.lower b.lower) (boundMax a.upper? b.upper?)

/-- The tightest indicator for a sequence of a known size, or of an unknown one. -/
def ofSize : Option Nat → Occurrence
  | some 0 => zero
  | some 1 => one
  | some _ => oneMore
  | none => zeroMore

end Occurrence
end SequenceTypes
