import Mathlib.Algebra.Order.Ring.Abs
import Mathlib.Tactic.Linarith
import SequenceTypes.Proofs.IntegerCast

/-! Decimals are read exactly. The digits after the point are appended to the coefficient until one does not
fit any more, and that digit rounds. Where the number of a literal is a decimal, only zeros are left at this
place: a digit that counts would need a larger coefficient or more places than the decimal has. So neither
zeros in front or at the end nor a missing part of the literal change what is read. -/

namespace SequenceTypes

open Traversal

namespace Literal

def places (l : Literal) : List Char := l.fraction?.getD []

/-- The number of a literal without its sign. -/
def magnitude (l : Literal) : ℚ :=
  Nat.ofDigitChars 10 l.whole 0 + Nat.ofDigitChars 10 l.places 0 / 10 ^ l.places.length

def value (l : Literal) : ℚ := if l.negative then -l.magnitude else l.magnitude

/-- Whether a literal has digits, and ASCII digits only. -/
structure IsAscii (l : Literal) : Prop where
  digits_ne_nil : l.digits ≠ []
  isDigit : ∀ c ∈ l.digits, c.isDigit

variable {l : Literal}

theorem IsAscii.isWellFormed (hl : l.IsAscii) : l.IsWellFormed where
  digits_ne_nil := hl.digits_ne_nil
  isDecimalDigit c hc := Text.isDecimalDigit_of_isDigit (hl.isDigit c hc)

theorem magnitude_nonneg (l : Literal) : 0 ≤ l.magnitude := by
  rw [magnitude]
  positivity

theorem whole_le_magnitude (l : Literal) : (Nat.ofDigitChars 10 l.whole 0 : ℚ) ≤ l.magnitude := by
  rw [magnitude]
  exact le_add_of_nonneg_right (by positivity)

theorem abs_value (l : Literal) : |l.value| = l.magnitude := by
  rw [value]
  split
  · rw [abs_neg, abs_of_nonneg l.magnitude_nonneg]
  · rw [abs_of_nonneg l.magnitude_nonneg]

end Literal

namespace Text

variable {c : Char} {cs : List Char}

theorem digit_lt_ten (hc : c.isDigit) : c.toNat - '0'.toNat < 10 := by
  obtain ⟨hlower, hupper⟩ := Char.isDigit_iff_toNat.1 hc
  have hupper : c.toNat ≤ 57 := hupper
  have hzero : '0'.toNat = 48 := rfl
  omega

theorem ofDigitChars_lt (hcs : ∀ c ∈ cs, c.isDigit) : Nat.ofDigitChars 10 cs 0 < 10 ^ cs.length := by
  induction cs with
  | nil => exact Nat.one_pos
  | cons c cs ih =>
      obtain ⟨hc, hcs⟩ := List.forall_mem_cons.1 hcs
      have hdigit := digit_lt_ten hc
      have hrest := ih hcs
      rw [Nat.ofDigitChars_cons, Nat.ofDigitChars_eq_ofDigitChars_zero, List.length_cons, pow_succ]
      calc 10 ^ cs.length * (10 * 0 + (c.toNat - '0'.toNat)) + Nat.ofDigitChars 10 cs 0
          < 10 ^ cs.length * (10 * 0 + (c.toNat - '0'.toNat)) + 10 ^ cs.length := by
            exact Nat.add_lt_add_left hrest _
        _ = 10 ^ cs.length * ((c.toNat - '0'.toNat) + 1) := by ring
        _ ≤ 10 ^ cs.length * 10 := Nat.mul_le_mul_left _ hdigit

/-- A number with further digits is the number shifted by their places, and what the digits stand for. -/
theorem ofDigitChars_cast (n : Nat) (cs : List Char) :
    (Nat.ofDigitChars 10 cs n : ℚ) / 10 ^ cs.length =
      n + Nat.ofDigitChars 10 cs 0 / 10 ^ cs.length := by
  rw [Nat.ofDigitChars_eq_ofDigitChars_zero]
  push_cast
  field_simp

end Text

namespace Decimal

variable {n scale : Nat} {cs : List Char}

/-- Where the number is a decimal, only zeros are left when the reader stops. -/
theorem ofDigitChars_eq_zero_of_stop {m k : Nat} {c : Char} {rest : List Char} (hm : m < limit)
    (hk : k ≤ 28) (hdigits : ∀ d ∈ c :: rest, d.isDigit)
    (hnumber : Nat.ofDigitChars 10 (c :: rest) n * 10 ^ k = m * 10 ^ (scale + (c :: rest).length))
    (hstop : scale = 28 ∨ limit ≤ 10 * n + (c.toNat - '0'.toNat)) :
    Nat.ofDigitChars 10 (c :: rest) 0 = 0 := by
  by_cases hplaces : k ≤ scale
  · -- the number is a whole multiple of the last place taken
    obtain ⟨j, rfl⟩ := Nat.exists_eq_add_of_le hplaces
    have hmultiple : 10 ^ (c :: rest).length ∣ Nat.ofDigitChars 10 (c :: rest) n := by
      refine ⟨m * 10 ^ j, Nat.eq_of_mul_eq_mul_right (Nat.pow_pos (n := k) (by omega : 0 < 10)) ?_⟩
      rw [hnumber]
      ring
    rw [Nat.ofDigitChars_eq_ofDigitChars_zero] at hmultiple
    have hrest := (Nat.dvd_add_right (Nat.dvd_mul_right _ _)).1 hmultiple
    exact Nat.eq_zero_of_dvd_of_lt hrest (Text.ofDigitChars_lt hdigits)
  · -- the decimal has a place more, and its coefficient would be too large
    have hlimit : limit ≤ 10 * n + (c.toNat - '0'.toNat) := by omega
    have hlower : limit * 10 ^ rest.length ≤ Nat.ofDigitChars 10 (c :: rest) n := by
      rw [Nat.ofDigitChars_cons, Nat.ofDigitChars_eq_ofDigitChars_zero, Nat.mul_comm]
      exact Nat.le_add_right_of_le (Nat.mul_le_mul_left _ hlimit)
    have hlarge : limit * 10 ^ (scale + (c :: rest).length) ≤ m * 10 ^ (scale + (c :: rest).length) := by
      calc limit * 10 ^ (scale + (c :: rest).length)
          ≤ limit * 10 ^ (rest.length + k) := by
            refine Nat.mul_le_mul_left _ (Nat.pow_le_pow_right (by omega) ?_)
            rw [List.length_cons]
            omega
        _ = limit * 10 ^ rest.length * 10 ^ k := by rw [pow_add, mul_assoc]
        _ ≤ Nat.ofDigitChars 10 (c :: rest) n * 10 ^ k := Nat.mul_le_mul_right _ hlower
        _ = m * 10 ^ (scale + (c :: rest).length) := hnumber
    exact absurd (Nat.le_of_mul_le_mul_right hlarge (Nat.pow_pos (by omega))) (by omega)

/-- A number that is a decimal is read without loss. -/
theorem readFraction_exact {m k : Nat} (hn : n < limit) (hcs : ∀ c ∈ cs, c.isDigit) (hm : m < limit)
    (hk : k ≤ 28) (hnumber : Nat.ofDigitChars 10 cs n * 10 ^ k = m * 10 ^ cs.length) :
    ∃ p s, readFraction n 0 cs = some (p, s) ∧ p < limit ∧ s ≤ 28 ∧
      p * 10 ^ cs.length = Nat.ofDigitChars 10 cs n * 10 ^ s := by
  rcases readFraction_cases hn (Nat.zero_le 28) cs with
    ⟨_, hfits, hlength, hread⟩ | ⟨taken, c, rest, rfl, _, hfits, hlength, ⟨hc, _⟩ | ⟨_, hstop, hread⟩⟩
  · rw [Nat.zero_add] at hlength hread
    exact ⟨_, _, hread, hfits, hlength, rfl⟩
  · rw [hcs c (by simp)] at hc
    cases hc
  · rw [Nat.zero_add] at hlength hstop hread
    have hdigits := (List.forall_mem_append.1 hcs).2
    rw [Nat.ofDigitChars_append, List.length_append] at hnumber
    have hzero := ofDigitChars_eq_zero_of_stop hm hk hdigits hnumber hstop
    have hdigit : c.toNat - '0'.toNat < 5 := by
      rw [Nat.ofDigitChars_cons, Nat.ofDigitChars_eq_ofDigitChars_zero, Nat.add_eq_zero_iff,
        Nat.mul_eq_zero] at hzero
      have hpow : 10 ^ rest.length ≠ 0 := by positivity
      omega
    refine ⟨_, _, hread.trans (if_pos hdigit), hfits, hlength, ?_⟩
    rw [Nat.ofDigitChars_append, Nat.ofDigitChars_eq_ofDigitChars_zero (l := c :: rest), hzero,
      List.length_append]
    ring

/-- A coefficient and a scale that fit make a decimal of that number. -/
theorem exists_make?_signed (hn : n < limit) (hscale : scale ≤ 28) (negative : Bool) :
    ∃ d, make? (signed negative n) scale = some d ∧
      d.value = if negative then -((n : ℚ) / 10 ^ scale) else (n : ℚ) / 10 ^ scale := by
  have hfits : (signed negative n).natAbs < limit ∧ scale ≤ 28 := by
    rw [natAbs_signed]
    exact ⟨hn, hscale⟩
  refine ⟨_, dif_pos hfits, ?_⟩
  rw [value]
  cases negative with
  | false => simp [signed]
  | true => simp [signed, neg_div]

/-- A literal of ASCII digits is read from its whole part on; where nothing stands after the point, a
zero may be read there. -/
theorem ofLiteral?_of_isDigit {l : Literal} (hl : ∀ c ∈ l.digits, c.isDigit) :
    ∃ ds : List Char, (∀ c ∈ ds, c.isDigit) ∧
      l.magnitude = (Nat.ofDigitChars 10 ds (Nat.ofDigitChars 10 l.whole 0) : ℚ) / 10 ^ ds.length ∧
      ofLiteral? l =
        if limit ≤ Nat.ofDigitChars 10 l.whole 0 then none
        else (readFraction (Nat.ofDigitChars 10 l.whole 0) 0 ds).bind
          fun p => make? (signed l.negative p.1) p.2 := by
  obtain ⟨negative, whole, fraction?⟩ := l
  obtain ⟨hwhole, hfraction⟩ := List.forall_mem_append.1 hl
  -- the digits after the point that the reader is given
  have hread : ∀ ds : List Char,
      (fraction?.elim [] fun ds => if ds = [] then ['0'] else ds) = ds →
      ofLiteral? ⟨negative, whole, fraction?⟩ =
        if limit ≤ Nat.ofDigitChars 10 whole 0 then none
        else (readFraction (Nat.ofDigitChars 10 whole 0) 0 ds).bind
          fun p => make? (signed negative p.1) p.2 := by
    intro ds heq
    simp only [ofLiteral?, heq, Text.ofDigits?_of_isDigit hwhole, Option.bind_eq_bind, Option.bind_some]
    rfl
  cases fraction? with
  | none =>
      refine ⟨[], by simp, ?_, hread [] rfl⟩
      simp [Literal.magnitude, Literal.places]
  | some fraction =>
      by_cases hnil : fraction = []
      · subst hnil
        refine ⟨['0'], by simp, ?_, hread ['0'] rfl⟩
        rw [Text.ofDigitChars_cast]
        simp [Literal.magnitude, Literal.places, Nat.ofDigitChars_cons]
      · refine ⟨fraction, hfraction, ?_, hread fraction (if_neg hnil)⟩
        rw [Text.ofDigitChars_cast]
        rfl

/-- A literal whose number is a decimal is read as that number. -/
theorem ofLiteral?_exact {l : Literal} {m k : Nat} (hl : ∀ c ∈ l.digits, c.isDigit) (hm : m < limit)
    (hk : k ≤ 28) (hnumber : l.magnitude = (m : ℚ) / 10 ^ k) :
    ∃ d, ofLiteral? l = some d ∧ d.value = l.value := by
  obtain ⟨ds, hds, hmagnitude, hread⟩ := ofLiteral?_of_isDigit hl
  have hwhole : Nat.ofDigitChars 10 l.whole 0 < limit := by
    have hle : (Nat.ofDigitChars 10 l.whole 0 : ℚ) ≤ m :=
      calc (Nat.ofDigitChars 10 l.whole 0 : ℚ)
          ≤ l.magnitude := l.whole_le_magnitude
        _ = (m : ℚ) / 10 ^ k := hnumber
        _ ≤ m := div_le_self (Nat.cast_nonneg m) (one_le_pow₀ (by norm_num))
    exact Nat.lt_of_le_of_lt (by exact_mod_cast hle) hm
  have hscaled : Nat.ofDigitChars 10 ds (Nat.ofDigitChars 10 l.whole 0) * 10 ^ k = m * 10 ^ ds.length := by
    have hquotients := hmagnitude.symm.trans hnumber
    rw [div_eq_div_iff (by positivity) (by positivity)] at hquotients
    exact_mod_cast hquotients
  obtain ⟨p, s, hp, hfits, hs, hequal⟩ := readFraction_exact hwhole hds hm hk hscaled
  obtain ⟨d, hd, hvalue⟩ := exists_make?_signed hfits hs l.negative
  refine ⟨d, ?_, ?_⟩
  · rw [hread, if_neg (by omega), hp]
    exact hd
  · have hmagnitude : l.magnitude = (p : ℚ) / 10 ^ s := by
      rw [hmagnitude, div_eq_div_iff (by positivity) (by positivity)]
      exact_mod_cast hequal.symm
    rw [hvalue, Literal.value, hmagnitude]

end Decimal

namespace Cast

variable {a : AtomicValue}

/-- Text is read as a literal, whose number must not be too large. -/
theorem toDecimal_of_isTextual (ha : a.isTextual) :
    toDecimal a =
      orNotRepresentable .decimal a.stringValue
          (Literal.ofDecimal? (Text.collapse a.stringValue.toList)) >>= fun l =>
        orOutOfRange .decimal a.stringValue (Decimal.ofLiteral? l) := by
  cases a with
  | untyped _ | string _ _ => rfl
  | _ => cases ha

end Cast

namespace AtomicType

variable {x : AtomicValue} {l : Literal}

theorem decimal_cast_eq (hx : x.type ≠ .decimal) (ctx : StaticContext) :
    decimal.cast ctx x = (Cast.toDecimal x).map fun d => [.decimal d] := by
  rw [cast_of_type_ne rfl rfl hx, Cast.convert]
  cases Cast.toDecimal x <;> rfl

/-- A text whose number is a decimal is cast to that decimal. -/
theorem cast_to_decimal_exact {m : ℤ} {k : ℕ} (hx : x.isTextual) (hne : x.type ≠ .decimal)
    (hl : l.IsAscii) (hwrites : l.Writes (Text.collapse x.stringValue.toList))
    (hm : |m| ≤ 2 ^ 96 - 1) (hk : k ≤ 28) (hvalue : l.value = m / 10 ^ k) (ctx : StaticContext) :
    ∃ d : Decimal, decimal.cast ctx x = .ok [.decimal d] ∧ d.value = m / 10 ^ k := by
  have hnumber : l.magnitude = (m.natAbs : ℚ) / 10 ^ k := by
    have hpow : (0 : ℚ) < 10 ^ k := by positivity
    rw [← l.abs_value, hvalue, abs_div, abs_of_pos hpow, Nat.cast_natAbs, Int.cast_abs]
  have hfits : m.natAbs < Decimal.limit := by
    rw [Int.abs_eq_natAbs] at hm
    rw [Decimal.limit, Nat.pow_eq]
    omega
  obtain ⟨d, hd, hsame⟩ := Decimal.ofLiteral?_exact hl.isDigit hfits hk hnumber
  have hread : Literal.ofDecimal? (Text.collapse x.stringValue.toList) = some l :=
    Literal.ofDecimal?_eq_some_iff.2 ⟨hl.isWellFormed, hwrites⟩
  refine ⟨d, ?_, hsame.trans hvalue⟩
  have hdecimal : Cast.toDecimal x = .ok d := by
    rw [Cast.toDecimal_of_isTextual hx, hread, bind_eq_ok_iff]
    exact ⟨l, rfl, Cast.orOutOfRange_eq_ok_iff.2 hd⟩
  rw [decimal_cast_eq hne, hdecimal]
  rfl

/-- The largest coefficient at the largest scale, with zeros on both sides, and a largest integer before
a point that nothing follows. -/
theorem cast_to_decimal_at_limits :
    let long : AtomicValue := .untyped "\t-0000000000007.9228162514264337593543950335000000 \r\n"
    let bare : AtomicValue := .string .string "+79228162514264337593543950335."
    (∃ d : Decimal, decimal.cast .initial long = .ok [.decimal d] ∧ d.value = (1 - 2 ^ 96) / 10 ^ 28) ∧
    (∃ d : Decimal, decimal.cast .initial bare = .ok [.decimal d] ∧ d.value = 2 ^ 96 - 1) := by
  intro long bare
  constructor
  · let l : Literal := ⟨true, "0000000000007".toList, some "9228162514264337593543950335000000".toList⟩
    have hwhole : Nat.ofDigitChars 10 l.whole 0 = 7 := by decide
    have hplaces : Nat.ofDigitChars 10 l.places 0 = 9228162514264337593543950335000000 := by decide
    have hvalue : l.value = ((1 - 2 ^ 96 : ℤ) : ℚ) / 10 ^ 28 := by
      have hlength : l.places.length = 34 := by decide
      rw [Literal.value, Literal.magnitude, hwhole, hplaces, hlength, if_pos rfl]
      norm_num
    obtain ⟨d, hcast, hd⟩ := cast_to_decimal_exact (x := long) (l := l) rfl (by decide)
      ⟨by decide, List.all_eq_true.1 (by decide)⟩ (Or.inl (by decide +kernel)) (by decide) (by decide)
      hvalue .initial
    exact ⟨d, hcast, by rw [hd]; norm_num⟩
  · let l : Literal := ⟨false, "79228162514264337593543950335".toList, some []⟩
    have hwhole : Nat.ofDigitChars 10 l.whole 0 = 79228162514264337593543950335 := by decide
    have hvalue : l.value = ((2 ^ 96 - 1 : ℤ) : ℚ) / 10 ^ 0 := by
      have hplaces : l.places = [] := rfl
      rw [Literal.value, Literal.magnitude, hwhole, hplaces]
      norm_num [l]
    obtain ⟨d, hcast, hd⟩ := cast_to_decimal_exact (x := bare) (l := l) rfl (by decide)
      ⟨by decide, List.all_eq_true.1 (by decide)⟩ (Or.inr ⟨rfl, by decide +kernel⟩) (by decide) (by decide)
      hvalue .initial
    exact ⟨d, hcast, by rw [hd]; norm_num⟩

end AtomicType
end SequenceTypes
