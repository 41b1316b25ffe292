import SequenceTypes.Calendar.Time
import SequenceTypes.Proofs.DigitText

/-! Dates and times as text. Each reader takes off a text what the printer of its part has put there, so
that the parts of a date or time are read one after the other, whatever follows them. -/

namespace SequenceTypes

open Text

namespace Calendar

variable {width n : Nat}

theorem literal?_cons (c : Char) (cs : List Char) : literal? c (c :: cs) = some cs := if_pos rfl

theorem dropWhile_isBlank_padded (rest : List Char) :
    (padded width n ++ rest).dropWhile isBlank = padded width n ++ rest := by
  obtain ⟨c, cs, heq, hc⟩ := exists_padded_eq_cons width n
  rw [heq, List.cons_append, List.dropWhile_cons_of_neg (by simp [not_isBlank_of_isDigit hc])]

/-- A number that fills its width is read off the front of any text: no further digit is looked at. -/
theorem number?_padded (hwidth : 0 < width) (hn : n < 10 ^ width) (rest : List Char) :
    number? width (padded width n ++ rest) = some (n, rest) := by
  have hlen := length_padded hwidth hn
  have htake : ((padded width n ++ rest).take width).takeWhile Char.isDigit = padded width n := by
    rw [List.take_left' hlen, takeWhile_isDigit_padded]
  simp only [number?, dropWhile_isBlank_padded, htake, if_neg (padded_ne_nil width n),
    ofDigitChars_padded, List.drop_left]

/-- A run of any length is read up to the next character that is no digit. -/
theorem digits?_padded {c : Char} (hc : c.isDigit = false) (rest : List Char) :
    digits? (padded width n ++ c :: rest) = some (n, c :: rest) := by
  have hdigits : ∀ d ∈ padded width n, d.isDigit := fun d hd => isDigit_of_mem_padded hd
  have hrest : ∀ d ∈ (c :: rest).head?, d.isDigit = false := by simpa using hc
  simp only [digits?, takeWhile_digits hdigits _ hrest, dropWhile_digits hdigits _ hrest,
    if_neg (padded_ne_nil width n), ofDigitChars_padded]

theorem year?_digits (rest : List Char) :
    year? (padded width n ++ rest) =
      (number? 4 (padded width n ++ rest)).map fun (n, cs) => (Int.ofNat n, cs) := by
  obtain ⟨c, cs, heq, hc⟩ := exists_padded_eq_cons width n
  rw [year?, dropWhile_isBlank_padded, heq, List.cons_append]
  split
  · next htext =>
      cases htext
      cases hc
  · next htext =>
      cases htext
      cases hc
  · rfl

/-- Years outside 0 to 9999 carry a sign, and only after a sign is a year read past its fourth digit. -/
theorem year?_yearChars (year : Int) {c : Char} (hc : c.isDigit = false) (rest : List Char) :
    year? (Date.yearChars year ++ c :: rest) = some (year, c :: rest) := by
  by_cases hneg : year < 0
  · have hread : year? ('-' :: (padded 4 year.natAbs ++ c :: rest)) =
        some (-Int.ofNat year.natAbs, c :: rest) := by
      rw [year?, List.dropWhile_cons_of_neg (by decide)]
      simp only [digits?_padded hc rest, Option.map_some]
    have hvalue : -Int.ofNat year.natAbs = year := by
      rw [Int.ofNat_eq_natCast]
      omega
    simp only [Date.yearChars, if_pos hneg, List.cons_append, hread, hvalue]
  · have hvalue : Int.ofNat year.natAbs = year := by
      rw [Int.ofNat_eq_natCast]
      omega
    by_cases hlarge : 9999 < year
    · have hread : year? ('+' :: (padded 4 year.natAbs ++ c :: rest)) =
          some (Int.ofNat year.natAbs, c :: rest) := by
        rw [year?, List.dropWhile_cons_of_neg (by decide)]
        simp only [digits?_padded hc rest, Option.map_some]
      simp only [Date.yearChars, if_neg hneg, if_pos hlarge, List.cons_append, hread, hvalue]
    · have hfour : year.natAbs < 10 ^ 4 := by omega
      simp only [Date.yearChars, if_neg hneg, if_neg hlarge, year?_digits,
        number?_padded (by omega) hfour, Option.map_some, hvalue]

theorem nanoseconds_padded (hwidth : 0 < width) (hnine : width ≤ 9) (hn : n < 10 ^ width) :
    nanoseconds (padded width n) = n * Nat.pow 10 (9 - width) := by
  have hlen := length_padded hwidth hn
  rw [nanoseconds, List.take_of_length_le (by omega), ofDigitChars_padded, hlen]

theorem fraction?_padded (hwidth : 0 < width) (hnine : width ≤ 9) (hn : n < 10 ^ width) :
    fraction? ('.' :: padded width n) = some (n * Nat.pow 10 (9 - width), []) := by
  simp only [fraction?, takeWhile_isDigit_padded, dropWhile_isDigit_padded,
    if_neg (padded_ne_nil width n), nanoseconds_padded hwidth hnine hn]

/-- Of three, six and nine digits the least number that is exact is printed. -/
theorem fraction?_fractionChars {nano : Nat} (hnano : nano < nanosPerSecond) :
    fraction? (Time.fractionChars nano) = some (nano, []) := by
  have hnano : nano < 1000000000 := hnano
  rw [Time.fractionChars]
  split
  · next hzero =>
      rw [hzero]
      rfl
  split
  · next hmilli =>
      rw [fraction?_padded (by omega) (by omega) (by omega)]
      congr 2
      show nano / 1000000 * 1000000 = nano
      omega
  split
  · next hmicro =>
      rw [fraction?_padded (by omega) (by omega) (by omega)]
      congr 2
      show nano / 1000 * 1000 = nano
      omega
  · rw [fraction?_padded (by omega) (by omega) (by omega)]
    congr 2
    exact Nat.mul_one nano

end Calendar

open Calendar

namespace Date

theorem day_lt (d : Date) : d.day < 10 ^ 2 := by
  obtain ⟨-, -, -, -, -, hday⟩ := d.valid
  have hmost : daysInMonth d.year d.month ≤ 31 := by
    rw [daysInMonth]
    split
    · split <;> omega
    · split <;> omega
  omega

theorem month_lt (d : Date) : d.month < 10 ^ 2 := by
  obtain ⟨-, -, -, hmonth, -⟩ := d.valid
  omega

theorem make?_self (d : Date) : make? d.year d.month d.day = some d := dif_pos d.valid

/-- A date is read off the front of any text. -/
theorem split?_chars (d : Date) (rest : List Char) : split? (d.chars ++ rest) = some (d, rest) := by
  have htext : d.chars ++ rest =
      yearChars d.year ++ '-' :: (padded 2 d.month ++ '-' :: (padded 2 d.day ++ rest)) := by
    simp only [chars, List.append_assoc, List.cons_append]
  have hdash : '-'.isDigit = false := rfl
  simp [split?, htext, year?_yearChars d.year hdash, literal?_cons,
    number?_padded Nat.two_pos d.month_lt, number?_padded Nat.two_pos d.day_lt, make?_self]

theorem read?_chars (d : Date) : read? d.chars = some d := by
  have hsplit := d.split?_chars []
  rw [List.append_nil] at hsplit
  rw [read?, hsplit]

theorem not_isSpace_of_mem_chars (d : Date) : ∀ c ∈ d.chars, isSpace c = false := by
  have hyear : ∀ c ∈ yearChars d.year, isSpace c = false := by
    rw [yearChars]
    split
    · exact List.forall_mem_cons.2 ⟨rfl, not_isSpace_of_mem_padded⟩
    split
    · exact List.forall_mem_cons.2 ⟨rfl, not_isSpace_of_mem_padded⟩
    · exact not_isSpace_of_mem_padded
  simp only [chars, List.forall_mem_append, List.forall_mem_cons]
  exact ⟨⟨hyear, rfl, not_isSpace_of_mem_padded⟩, rfl, not_isSpace_of_mem_padded⟩

theorem chars_ne_nil (d : Date) : d.chars ≠ [] := by
  simp [chars]

end Date

namespace Time

theorem make?_self (t : Time) : make? t.hour t.minute t.second t.nano = some t := dif_pos t.valid

/-- Whether the time is within a leap second that does not end a minute. -/
def Carries (t : Time) : Prop := t.second < 59 ∧ nanosPerSecond ≤ t.nano

instance (t : Time) : Decidable t.Carries := inferInstanceAs (Decidable (_ ∧ _))

theorem isTime_of_carries {t : Time} (h : t.Carries) :
    IsTime t.hour t.minute (t.second + 1) (t.nano - nanosPerSecond) := by
  obtain ⟨hhour, hminute, -, hnano⟩ := t.valid
  obtain ⟨hsecond, -⟩ := h
  exact ⟨hhour, hminute, by omega, by omega⟩

/-- The time its text denotes: the whole second among the nanoseconds is a second of its own, except at the end
of a minute. -/
def carried (t : Time) : Time :=
  if h : t.Carries then ⟨t.hour, t.minute, t.second + 1, t.nano - nanosPerSecond, isTime_of_carries h⟩
  else t

theorem carried_of_not_carries {t : Time} (h : ¬t.Carries) : t.carried = t := dif_neg h

theorem carried_eq_self_iff {t : Time} : t.carried = t ↔ ¬t.Carries := by
  refine ⟨fun heq h => ?_, carried_of_not_carries⟩
  have hsecond : t.carried.second = t.second + 1 := by rw [carried, dif_pos h]
  rw [heq] at hsecond
  omega

/-- A second is printed with the whole seconds among its nanoseconds, of which there is one in a leap
second. -/
theorem printedSecond (t : Time) :
    t.nano < nanosPerSecond ∧ t.second + t.nano / nanosPerSecond = t.second ∨
      nanosPerSecond ≤ t.nano ∧ t.second + t.nano / nanosPerSecond = t.second + 1 ∧
        t.nano % nanosPerSecond = t.nano - nanosPerSecond := by
  obtain ⟨-, -, -, hnano⟩ := t.valid
  rw [nanosPerSecond] at *
  omega

theorem read?_chars (t : Time) : read? t.chars = some t.carried := by
  obtain ⟨hhour, hminute, hsecond, -⟩ := t.valid
  have htext : t.chars = padded 2 t.hour ++ ':' :: (padded 2 t.minute ++ ':' ::
      (padded 2 (t.second + t.nano / nanosPerSecond) ++ fractionChars (t.nano % nanosPerSecond))) := by
    simp only [chars, List.append_assoc, List.cons_append]
  have hprinted : t.second + t.nano / nanosPerSecond < 10 ^ 2 := by
    rcases t.printedSecond with ⟨-, hsame⟩ | ⟨-, hnext, -⟩ <;> omega
  have hhour : t.hour < 10 ^ 2 := by omega
  have hminute : t.minute < 10 ^ 2 := by omega
  have hnano : t.nano % nanosPerSecond < nanosPerSecond := Nat.mod_lt _ (by decide)
  simp only [read?, htext, number?_padded Nat.two_pos hhour, literal?_cons,
    number?_padded Nat.two_pos hminute, number?_padded Nat.two_pos hprinted,
    fraction?_fractionChars hnano, Option.bind_eq_bind, Option.bind_some, ne_eq, not_true_eq_false,
    if_false]
  rcases t.printedSecond with ⟨hordinary, hsame⟩ | ⟨hleap, hnext, hrest⟩
  · have hcarries : ¬t.Carries := fun h => Nat.not_le_of_lt hordinary h.2
    rw [hsame, if_neg (by omega), Nat.mod_eq_of_lt hordinary, make?_self, carried_of_not_carries hcarries]
  · rw [hnext, hrest]
    by_cases hlast : t.second = 59
    · have hcarries : ¬t.Carries := fun h => Nat.ne_of_lt h.1 hlast
      rw [if_pos (by rw [hlast]), Nat.sub_add_cancel hleap, ← hlast, make?_self,
        carried_of_not_carries hcarries]
    · have hcarries : t.Carries := ⟨by omega, hleap⟩
      rw [if_neg (by omega), make?, dif_pos (isTime_of_carries hcarries), carried, dif_pos hcarries]

theorem not_isSpace_of_mem_chars (t : Time) : ∀ c ∈ t.chars, isSpace c = false := by
  have hfraction : ∀ c ∈ fractionChars (t.nano % nanosPerSecond), isSpace c = false := by
    rw [fractionChars]
    split
    · exact List.forall_mem_nil _
    split
    · exact List.forall_mem_cons.2 ⟨rfl, not_isSpace_of_mem_padded⟩
    split
    · exact List.forall_mem_cons.2 ⟨rfl, not_isSpace_of_mem_padded⟩
    · exact List.forall_mem_cons.2 ⟨rfl, not_isSpace_of_mem_padded⟩
  simp only [chars, List.forall_mem_append, List.forall_mem_cons]
  exact ⟨⟨⟨not_isSpace_of_mem_padded, rfl, not_isSpace_of_mem_padded⟩, rfl, not_isSpace_of_mem_padded⟩,
    hfraction⟩

theorem chars_ne_nil (t : Time) : t.chars ≠ [] := by
  simp [chars]

end Time

namespace DateTime

theorem read?_chars (t : DateTime) :
    read? (t.date.chars ++ 'T' :: t.time.chars) = some ⟨t.date, t.time.carried⟩ := by
  simp [read?, Date.split?_chars, literal?_cons, Time.read?_chars]

theorem not_isSpace_of_mem_chars (t : DateTime) :
    ∀ c ∈ t.date.chars ++ 'T' :: t.time.chars, isSpace c = false := by
  rw [List.forall_mem_append, List.forall_mem_cons]
  exact ⟨t.date.not_isSpace_of_mem_chars, rfl, t.time.not_isSpace_of_mem_chars⟩

end DateTime
end SequenceTypes
