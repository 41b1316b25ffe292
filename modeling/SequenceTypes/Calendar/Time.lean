import SequenceTypes.Calendar.Date

/-! Times of day with nanoseconds, and dates with a time. A leap second is kept as the second before it with a
whole second of nanoseconds too many. It is written as the second after that one, and read only where it is
written as second 60. -/

namespace SequenceTypes
namespace Calendar

def nanosPerSecond : Nat := 1000000000

/-- What the fields of a time have to satisfy. A leap second may follow any second. -/
def IsTime (hour minute second nano : Nat) : Prop :=
  hour < 24 ∧ minute < 60 ∧ second < 60 ∧ nano < 2 * nanosPerSecond

instance (hour minute second nano : Nat) : Decidable (IsTime hour minute second nano) :=
  inferInstanceAs (Decidable (_ ∧ _))

end Calendar

/-- An `xs:time`. -/
structure Time where
  hour : Nat
  minute : Nat
  second : Nat
  nano : Nat
  valid : Calendar.IsTime hour minute second nano
  deriving DecidableEq

namespace Time

open Calendar

/-- The time with the given fields, if there is one. -/
def make? (hour minute second nano : Nat) : Option Time :=
  if h : IsTime hour minute second nano then some ⟨hour, minute, second, nano, h⟩ else none

/-- The start of a day. -/
def midnight : Time := ⟨0, 0, 0, 0, by decide⟩

/-- A fraction of a second: nothing, or the least of three, six and nine digits that is exact. -/
def fractionChars (nano : Nat) : List Char :=
  if nano = 0 then []
  else if nano % 1000000 = 0 then '.' :: Text.padded 3 (nano / 1000000)
  else if nano % 1000 = 0 then '.' :: Text.padded 6 (nano / 1000)
  else '.' :: Text.padded 9 nano

def chars (t : Time) : List Char :=
  Text.padded 2 t.hour ++ ':' :: Text.padded 2 t.minute ++ ':' ::
    Text.padded 2 (t.second + t.nano / nanosPerSecond) ++ fractionChars (t.nano % nanosPerSecond)

def text (t : Time) : String := String.ofList t.chars

/-- Reads a text that is a time. -/
def read? (cs : List Char) : Option Time := do
  let (hour, cs) ← number? 2 cs
  let cs ← literal? ':' cs
  let (minute, cs) ← number? 2 cs
  let cs ← literal? ':' cs
  let (second, cs) ← number? 2 cs
  let (nano, cs) ← fraction? cs
  if cs ≠ [] then none
  else if second = 60 then make? hour minute 59 (nano + nanosPerSecond)
  else make? hour minute second nano

end Time

/-- An `xs:dateTime`. -/
structure DateTime where
  date : Date
  time : Time
  deriving DecidableEq

namespace DateTime

def text (t : DateTime) : String := String.ofList (t.date.chars ++ 'T' :: t.time.chars)

/-- Reads a text that is a date, a `T` and a time. -/
def read? (cs : List Char) : Option DateTime := do
  let (date, cs) ← Date.split? cs
  let cs ← Calendar.literal? 'T' cs
  let time ← Time.read? cs
  some ⟨date, time⟩

end DateTime
end SequenceTypes
