import Mathlib.Data.List.TakeWhile
import Mathlib.Data.Rat.Lemmas
import Mathlib.Tactic.FieldSimp
import SequenceTypes.AtomicValue
import SequenceTypes.Proofs.DigitText

/-! Integers and decimals as text. A text is read as a literal exactly if it is one: its characters, with an
optional plus sign before them. What is printed is the characters of a literal, so reading gives it back.
Its digits are then turned into a number: for an integer the number itself, for a decimal the same number
without trailing zeros, since a coefficient that fits never meets the rounding of the reader. -/

namespace SequenceTypes

namespace Literal

def chars (l : Literal) : List Char :=
  (if l.negative then ['-'] else []) ++ l.whole ++ l.fraction?.elim [] ('.' :: ·)

def digits (l : Literal) : List Char := l.whole ++ l.fraction?.getD []

/-- The literal without its sign. -/
def body (l : Literal) : List Char := l.whole ++ l.fraction?.elim [] ('.' :: ·)

/-- Whether a text is a literal: its characters, before which a plus sign may stand in place of a minus
sign. -/
def Writes (l : Literal) (cs : List Char) : Prop :=
  cs = l.chars ∨ l.negative = false ∧ cs = '+' :: l.chars

/-- Whether a literal has digits, and decimal digits only. -/
structure IsWellFormed (l : Literal) : Prop where
  digits_ne_nil : l.digits ≠ []
  isDecimalDigit : ∀ c ∈ l.digits, Text.Category.isDecimalDigit c

variable {l : Literal} {cs : List Char}

theorem chars_eq (l : Literal) : l.chars = (if l.negative then ['-'] else []) ++ l.body :=
  List.append_assoc _ _ _

theorem splitSign_cases (cs : List Char) :
    (cs = '-' :: (splitSign cs).2 ∧ (splitSign cs).1 = true) ∨
      ((cs = '+' :: (splitSign cs).2 ∨ cs = (splitSign cs).2) ∧ (splitSign cs).1 = false) := by
  fun_cases splitSign cs with
  | case1 cs => exact Or.inl ⟨rfl, rfl⟩
  | case2 cs => exact Or.inr ⟨Or.inl rfl, rfl⟩
  | case3 cs _ _ => exact Or.inr ⟨Or.inr rfl, rfl⟩

/-- A text that is split into a sign and a body is written with them. -/
theorem writes_of_splitSign (h : splitSign cs = (l.negative, l.body)) : l.Writes cs := by
  have hcases := splitSign_cases cs
  rw [h] at hcases
  rw [Writes, chars_eq]
  rcases hcases with ⟨hcs, hneg⟩ | ⟨hcs, hneg⟩
  · rw [if_pos hneg]
    exact Or.inl hcs
  · have hneg : l.negative = false := hneg
    rw [hneg]
    rcases hcs with hcs | hcs
    · exact Or.inr ⟨rfl, hcs⟩
    · exact Or.inl hcs

/-- A body starts with a digit or a point. -/
theorem IsWellFormed.exists_body_eq_cons (hl : l.IsWellFormed) :
    ∃ c cs, l.body = c :: cs ∧ c ≠ '-' ∧ c ≠ '+' := by
  obtain ⟨negative, whole, fraction?⟩ := l
  cases whole with
  | nil =>
      cases fraction? with
      | none => exact absurd rfl hl.digits_ne_nil
      | some fraction => exact ⟨'.', fraction, rfl, by decide, by decide⟩
  | cons c whole =>
      have hc := hl.isDecimalDigit c (List.mem_append_left _ List.mem_cons_self)
      refine ⟨c, _, rfl, ?_, ?_⟩
      · rintro rfl
        revert hc
        decide
      · rintro rfl
        revert hc
        decide

theorem splitSign_of_writes (hl : l.IsWellFormed) (h : l.Writes cs) :
    splitSign cs = (l.negative, l.body) := by
  obtain ⟨c, rest, hbody, hminus, hplus⟩ := hl.exists_body_eq_cons
  rw [Writes, chars_eq] at h
  cases hneg : l.negative with
  | true =>
      rw [hneg] at h
      rcases h with rfl | ⟨hpositive, _⟩
      · rfl
      · cases hpositive
  | false =>
      rw [hneg] at h
      rcases h with rfl | ⟨_, rfl⟩
      · show splitSign l.body = (false, l.body)
        rw [hbody, splitSign]
        · rintro tail ⟨rfl, _⟩
          exact hminus rfl
        · rintro tail ⟨rfl, _⟩
          exact hplus rfl
      · rfl

theorem splitDigits_of_isDecimalDigit {ds : List Char}
    (hds : ∀ c ∈ ds, Text.Category.isDecimalDigit c) (rest : List Char)
    (hrest : ∀ c ∈ rest.head?, Text.Category.isDecimalDigit c = false) :
    splitDigits (ds ++ rest) = (ds, rest) := by
  rw [splitDigits, Text.takeWhile_digits hds _ hrest, Text.dropWhile_digits hds _ hrest]

theorem splitDigits_spec (cs : List Char) :
    (splitDigits cs).1 ++ (splitDigits cs).2 = cs ∧
      ∀ c ∈ (splitDigits cs).1, Text.Category.isDecimalDigit c :=
  ⟨List.takeWhile_append_dropWhile, fun _ hc => List.mem_takeWhile_imp hc⟩

/-- What is read as a literal has decimal digits, and is split into the sign and the body of it. -/
theorem split?_eq_some_nil (h : split? cs = some (l, [])) :
    l.IsWellFormed ∧ splitSign cs = (l.negative, l.body) := by
  rcases hsign : splitSign cs with ⟨negative, rest⟩
  obtain ⟨hrest, hwhole⟩ := splitDigits_spec rest
  rcases hdigits : splitDigits rest with ⟨whole, tail⟩
  rw [hdigits] at hrest hwhole
  rw [split?, hsign] at h
  dsimp only at h
  rw [hdigits] at h
  subst hrest
  dsimp only at h
  split at h
  · next fractional =>
      obtain ⟨hfractional, hfraction⟩ := splitDigits_spec fractional
      rcases hdigits' : splitDigits fractional with ⟨fraction, tail⟩
      rw [hdigits'] at hfractional hfraction
      rw [hdigits'] at h
      subst hfractional
      dsimp only at h
      obtain ⟨hne, heq⟩ := Option.ite_none_left_eq_some.1 h
      cases heq
      refine ⟨⟨?_, List.forall_mem_append.2 ⟨hwhole, hfraction⟩⟩, ?_⟩
      · intro hnil
        obtain ⟨rfl, rfl⟩ := List.append_eq_nil_iff.1 hnil
        exact hne rfl
      · rw [List.append_nil]
        rfl
  · obtain ⟨hne, heq⟩ := Option.ite_none_left_eq_some.1 h
    cases heq
    have hall : digits ⟨negative, whole, none⟩ = whole := List.append_nil whole
    exact ⟨⟨hall.symm ▸ hne, hall.symm ▸ hwhole⟩, rfl⟩

theorem split?_of_splitSign (hl : l.IsWellFormed) (h : splitSign cs = (l.negative, l.body)) :
    split? cs = some (l, []) := by
  obtain ⟨negative, whole, fraction?⟩ := l
  obtain ⟨hwhole, hfraction⟩ := List.forall_mem_append.1 hl.isDecimalDigit
  rw [split?, h]
  cases fraction? with
  | none =>
      have hne : whole ≠ [] := by simpa [digits] using hl.digits_ne_nil
      have hdigits : splitDigits (whole ++ []) = (whole, []) :=
        splitDigits_of_isDecimalDigit hwhole [] (by simp)
      simp only [body, Option.elim_none, hdigits]
      exact if_neg hne
  | some fraction =>
      have hne : ¬(whole = [] && fraction = []) := by simpa [digits] using hl.digits_ne_nil
      have hdigits : splitDigits (whole ++ '.' :: fraction) = (whole, '.' :: fraction) :=
        splitDigits_of_isDecimalDigit hwhole _ (by simp; decide)
      have hrest : splitDigits (fraction ++ []) = (fraction, []) :=
        splitDigits_of_isDecimalDigit hfraction [] (by simp)
      rw [List.append_nil] at hrest
      simp only [body, Option.elim_some, hdigits, hrest]
      exact if_neg hne

/-- A text is read as a literal exactly if the literal is written so. -/
theorem ofDecimal?_eq_some_iff : ofDecimal? cs = some l ↔ l.IsWellFormed ∧ l.Writes cs := by
  have hsplit : ofDecimal? cs = some l ↔ split? cs = some (l, []) := by
    rw [ofDecimal?]
    split
    · next l' heq => simp [heq]
    · next hne =>
        constructor
        · intro h
          cases h
        · intro h
          exact absurd h (hne l)
  rw [hsplit]
  constructor
  · intro h
    obtain ⟨hl, hsign⟩ := split?_eq_some_nil h
    exact ⟨hl, writes_of_splitSign hsign⟩
  · rintro ⟨hl, hwrites⟩
    exact split?_of_splitSign hl (splitSign_of_writes hl hwrites)

theorem ofInteger?_eq_some_iff :
    ofInteger? cs = some l ↔ l.fraction? = none ∧ l.IsWellFormed ∧ l.Writes cs := by
  rw [← ofDecimal?_eq_some_iff, ofInteger?]
  split
  · next negative whole heq =>
      rw [heq]
      simp only [Option.some.injEq]
      constructor
      · rintro rfl
        exact ⟨rfl, rfl⟩
      · exact And.right
  · next hne =>
      constructor
      · intro h
        cases h
      · rintro ⟨hfraction, h⟩
        obtain ⟨negative, whole, fraction?⟩ := l
        cases hfraction
        exact absurd h (hne negative whole)

/-- A literal of ASCII digits that has a digit before the point. -/
structure IsPlain (l : Literal) : Prop where
  whole_ne_nil : l.whole ≠ []
  isDigit : ∀ c ∈ l.digits, c.isDigit

theorem IsPlain.isDigit_whole (hl : l.IsPlain) : ∀ c ∈ l.whole, c.isDigit :=
  fun c hc => hl.isDigit c (List.mem_append_left _ hc)

theorem IsPlain.isWellFormed (hl : l.IsPlain) : l.IsWellFormed where
  digits_ne_nil := List.append_ne_nil_of_left_ne_nil hl.whole_ne_nil _
  isDecimalDigit c hc := Text.isDecimalDigit_of_isDigit (hl.isDigit c hc)

theorem ofDecimal?_chars (hl : l.IsPlain) : ofDecimal? l.chars = some l :=
  ofDecimal?_eq_some_iff.2 ⟨hl.isWellFormed, Or.inl rfl⟩

/-- The characters of a literal are its digits, a sign and a point: none of them is a space. -/
theorem collapse_chars (hl : l.IsPlain) : Text.collapse l.chars = l.chars := by
  have hdigits : ∀ c ∈ l.digits, Text.isSpace c = false :=
    fun c hc => Text.not_isSpace_of_isDigit (hl.isDigit c hc)
  refine Text.collapse_of_forall ?_ ?_
  · simp [chars, hl.whole_ne_nil]
  · obtain ⟨negative, whole, fraction?⟩ := l
    obtain ⟨hwhole, hfraction⟩ := List.forall_mem_append.1 hdigits
    rw [chars, List.forall_mem_append, List.forall_mem_append]
    refine ⟨⟨?_, hwhole⟩, ?_⟩
    · cases negative <;> simp [Text.isSpace]
    · cases fraction? with
      | none => exact List.forall_mem_nil _
      | some fraction => exact List.forall_mem_cons.2 ⟨by decide, hfraction⟩

def ofInt (n : Int) : Literal := ⟨n < 0, Nat.toDigits 10 n.natAbs, none⟩

theorem isPlain_ofInt (n : Int) : (ofInt n).IsPlain where
  whole_ne_nil := Nat.toDigits_ne_nil
  isDigit c hc := by
    rw [digits, ofInt, Option.getD_none, List.append_nil] at hc
    exact Nat.isDigit_of_mem_toDigits (by omega) (by omega) hc

theorem toInt?_ofInt (n : Int) : (ofInt n).toInt? = some n := by
  have hdigits : ∀ c ∈ Nat.toDigits 10 n.natAbs, c.isDigit := (isPlain_ofInt n).isDigit_whole
  simp only [toInt?, ofInt, Text.ofDigits?_of_isDigit hdigits, Nat.ofDigitChars_ten_toDigits,
    Option.map_some, decide_eq_true_eq, Option.some.injEq, Int.ofNat_eq_natCast]
  split <;> omega

theorem ofInteger?_chars (n : Int) : ofInteger? (ofInt n).chars = some (ofInt n) :=
  ofInteger?_eq_some_iff.2 ⟨rfl, (isPlain_ofInt n).isWellFormed, Or.inl rfl⟩

end Literal

theorem AtomicValue.toList_integerText (n : Int) : (integerText n).toList = (Literal.ofInt n).chars := by
  simp [integerText, Literal.chars, Literal.ofInt]

namespace Decimal

/-- The number that a decimal represents. -/
def value (d : Decimal) : ℚ := d.coefficient / 10 ^ d.scale

/-- Dropping trailing zeros divides coefficient and unit by one power of ten. -/
theorem trim_spec (n scale : Nat) :
    (trim n scale).2 ≤ scale ∧ (trim n scale).1 * 10 ^ (scale - (trim n scale).2) = n := by
  induction scale generalizing n with
  | zero => simp [trim]
  | succ scale ih =>
      rw [trim]
      split
      · next hzero =>
          obtain ⟨hle, heq⟩ := ih (n / 10)
          refine ⟨by omega, ?_⟩
          rw [Nat.succ_sub hle, Nat.pow_succ, ← Nat.mul_assoc, heq]
          omega
      · simp

theorem trim_le (n scale : Nat) : (trim n scale).1 ≤ n := by
  have hspec := (trim_spec n scale).2
  have hpos : 0 < 10 ^ (scale - (trim n scale).2) := Nat.pow_pos (by omega)
  calc (trim n scale).1
    _ ≤ (trim n scale).1 * 10 ^ (scale - (trim n scale).2) := Nat.le_mul_of_pos_right _ hpos
    _ = n := hspec

/-- The coefficient with its sign. -/
def signed (negative : Bool) (n : Nat) : Int := if negative then -Int.ofNat n else Int.ofNat n

theorem natAbs_signed (negative : Bool) (n : Nat) : (signed negative n).natAbs = n := by
  cases negative <;> simp [signed]

theorem signed_natAbs (n : Int) : signed (n < 0) n.natAbs = n := by
  simp only [signed, decide_eq_true_eq, Int.ofNat_eq_natCast]
  split <;> omega

theorem signed_mul (negative : Bool) (n k : Nat) : signed negative (n * k) = signed negative n * k := by
  cases negative <;> simp [signed]

/-- The same number without trailing zeros. -/
def reduced (d : Decimal) : Decimal where
  coefficient := signed (d.coefficient < 0) (trim d.coefficient.natAbs d.scale).1
  scale := (trim d.coefficient.natAbs d.scale).2
  coefficient_lt := by
    rw [natAbs_signed]
    exact Nat.lt_of_le_of_lt (trim_le _ _) d.coefficient_lt
  scale_le := Nat.le_trans (trim_spec _ _).1 d.scale_le

theorem value_reduced (d : Decimal) : d.reduced.value = d.value := by
  obtain ⟨hle, hmul⟩ := trim_spec d.coefficient.natAbs d.scale
  have hcoefficient : d.coefficient = d.reduced.coefficient * (10 ^ (d.scale - d.reduced.scale) : Nat) := by
    rw [reduced, ← signed_mul, hmul, signed_natAbs]
  have hscale : d.scale = d.reduced.scale + (d.scale - d.reduced.scale) := (Nat.add_sub_cancel' hle).symm
  generalize d.scale - d.reduced.scale = k at hcoefficient hscale
  rw [value, value, hcoefficient, hscale]
  push_cast
  rw [pow_add]
  field_simp

/-- The digits that are printed for a decimal: at least one stands before the point. -/
def digits (d : Decimal) : List Char := Text.padded (d.reduced.scale + 1) d.reduced.coefficient.natAbs

theorem scale_lt_length_digits (d : Decimal) : d.reduced.scale < d.digits.length :=
  Text.le_length_padded _ _

def literal (d : Decimal) : Literal :=
  let place := d.digits.length - d.reduced.scale
  ⟨d.coefficient < 0, d.digits.take place, if d.reduced.scale = 0 then none else some (d.digits.drop place)⟩

theorem text_eq (d : Decimal) : d.text = String.ofList d.literal.chars := by
  have habs : d.reduced.coefficient.natAbs = (trim d.coefficient.natAbs d.scale).1 := natAbs_signed _ _
  have hscale : d.reduced.scale = (trim d.coefficient.natAbs d.scale).2 := rfl
  simp only [text, point, literal, digits, Literal.chars, habs, hscale, decide_eq_true_eq]
  by_cases hzero : (trim d.coefficient.natAbs d.scale).2 = 0 <;>
    by_cases hneg : d.coefficient < 0 <;> simp [hzero, hneg]

theorem getD_fraction_literal (d : Decimal) :
    d.literal.fraction?.getD [] = d.digits.drop (d.digits.length - d.reduced.scale) := by
  by_cases hzero : d.reduced.scale = 0 <;> simp [literal, hzero]

theorem digits_literal (d : Decimal) : d.literal.digits = d.digits := by
  rw [Literal.digits, getD_fraction_literal]
  exact List.take_append_drop _ _

theorem length_fraction_literal (d : Decimal) : (d.literal.fraction?.getD []).length = d.reduced.scale := by
  have hlen := d.scale_lt_length_digits
  rw [getD_fraction_literal, List.length_drop]
  omega

theorem isPlain_literal (d : Decimal) : d.literal.IsPlain where
  whole_ne_nil := by
    have hlen := d.scale_lt_length_digits
    intro hnil
    have hzero := congrArg List.length hnil
    simp only [literal, List.length_take, List.length_nil] at hzero
    omega
  isDigit c hc := by
    rw [digits_literal] at hc
    exact Text.isDigit_of_mem_padded hc

/-! ### Reading decimals -/

theorem le_ofDigitChars (n : Nat) (cs : List Char) : n ≤ Nat.ofDigitChars 10 cs n := by
  induction cs generalizing n with
  | nil => exact Nat.le_refl n
  | cons c cs ih =>
      rw [Nat.ofDigitChars_cons]
      exact Nat.le_trans (by omega) (ih _)

/-- The reader takes all digits, or as many as fit. It fails at a character that is no digit, and rounds at a
digit that does not fit. -/
theorem readFraction_cases {n scale : Nat} (hn : n < limit) (hscale : scale ≤ 28) (cs : List Char) :
    ((∀ c ∈ cs, c.isDigit) ∧ Nat.ofDigitChars 10 cs n < limit ∧ scale + cs.length ≤ 28 ∧
      readFraction n scale cs = some (Nat.ofDigitChars 10 cs n, scale + cs.length)) ∨
    ∃ taken c rest, cs = taken ++ c :: rest ∧ (∀ d ∈ taken, d.isDigit) ∧
      Nat.ofDigitChars 10 taken n < limit ∧ scale + taken.length ≤ 28 ∧
      (c.isDigit = false ∧ readFraction n scale cs = none ∨
        c.isDigit ∧
        (scale + taken.length = 28 ∨ limit ≤ 10 * Nat.ofDigitChars 10 taken n + (c.toNat - '0'.toNat)) ∧
        readFraction n scale cs =
          roundAt (Nat.ofDigitChars 10 taken n) (scale + taken.length) (c.toNat - '0'.toNat)) := by
  induction cs generalizing n scale with
  | nil => exact Or.inl ⟨List.forall_mem_nil _, hn, hscale, rfl⟩
  | cons c cs ih =>
      by_cases hc : c.isDigit
      case neg =>
        refine Or.inr ⟨[], c, cs, rfl, List.forall_mem_nil _, hn, hscale, Or.inl ⟨by simpa using hc, ?_⟩⟩
        rw [readFraction, if_neg hc]
      case pos =>
        by_cases hstop : scale = 28 ∨ limit ≤ 10 * n + (c.toNat - '0'.toNat)
        · refine Or.inr ⟨[], c, cs, rfl, List.forall_mem_nil _, hn, hscale, Or.inr ⟨hc, hstop, ?_⟩⟩
          rw [readFraction, if_pos hc, if_pos (by simpa using hstop)]
          rfl
        · have hread : readFraction n scale (c :: cs) =
              readFraction (10 * n + (c.toNat - '0'.toNat)) (scale + 1) cs := by
            rw [readFraction, if_pos hc, if_neg (by simpa using hstop)]
          have hshift : ∀ ds : List Char, scale + (c :: ds).length = scale + 1 + ds.length := by
            intro ds
            rw [List.length_cons]
            omega
          have hnext : 10 * n + (c.toNat - '0'.toNat) < limit := by omega
          have hplace : scale + 1 ≤ 28 := by omega
          rw [hread]
          rcases ih hnext hplace with
            ⟨hdigits, hfits, hlength, heq⟩ | ⟨taken, d, rest, rfl, hdigits, hfits, hlength, hlast⟩
          · left
            rw [Nat.ofDigitChars_cons, hshift]
            exact ⟨List.forall_mem_cons.2 ⟨hc, hdigits⟩, hfits, hlength, heq⟩
          · right
            refine ⟨c :: taken, d, rest, rfl, List.forall_mem_cons.2 ⟨hc, hdigits⟩, ?_⟩
            rw [Nat.ofDigitChars_cons, hshift]
            exact ⟨hfits, hlength, hlast⟩

/-- Digits are appended exactly where the whole coefficient fits: the numbers on the way there are smaller. -/
theorem readFraction_eq {n : Nat} {cs : List Char} (hcs : ∀ c ∈ cs, c.isDigit)
    (hfits : Nat.ofDigitChars 10 cs n < limit) (hscale : cs.length ≤ 28) :
    readFraction n 0 cs = some (Nat.ofDigitChars 10 cs n, cs.length) := by
  have hn : n < limit := Nat.lt_of_le_of_lt (le_ofDigitChars n cs) hfits
  rcases readFraction_cases hn (Nat.zero_le 28) cs with
    ⟨_, _, _, hread⟩ | ⟨taken, c, rest, rfl, _, _, _, ⟨hc, _⟩ | ⟨_, hstop, _⟩⟩
  · rw [hread, Nat.zero_add]
  · rw [hcs c (by simp)] at hc
    cases hc
  · rw [List.length_append, List.length_cons] at hscale
    rw [Nat.ofDigitChars_append, Nat.ofDigitChars_cons] at hfits
    have hnext := le_ofDigitChars (10 * Nat.ofDigitChars 10 taken n + (c.toNat - '0'.toNat)) rest
    omega

/-- A literal whose digits fit is read without rounding. -/
theorem ofLiteral?_eq {l : Literal} (hl : l.IsPlain) (hfraction : l.fraction? ≠ some [])
    (hfits : Nat.ofDigitChars 10 l.digits 0 < limit) (hscale : (l.fraction?.getD []).length ≤ 28) :
    ofLiteral? l =
      make? (signed l.negative (Nat.ofDigitChars 10 l.digits 0)) (l.fraction?.getD []).length := by
  obtain ⟨hwholeDigits, hfractionDigits⟩ := List.forall_mem_append.1 hl.isDigit
  have hread : (l.fraction?.elim [] fun ds => if ds = [] then ['0'] else ds) = l.fraction?.getD [] := by
    cases h : l.fraction? with
    | none => rfl
    | some ds => simp_all
  rw [Literal.digits, Nat.ofDigitChars_append] at hfits ⊢
  have hwhole : ¬ limit ≤ Nat.ofDigitChars 10 l.whole 0 := by
    have hle := le_ofDigitChars (Nat.ofDigitChars 10 l.whole 0) (l.fraction?.getD [])
    omega
  simp [ofLiteral?, hread, Text.ofDigits?_of_isDigit hwholeDigits, hwhole,
    readFraction_eq hfractionDigits hfits hscale, signed]

theorem ofLiteral?_literal (d : Decimal) : ofLiteral? d.literal = some d.reduced := by
  have hvalue : Nat.ofDigitChars 10 d.literal.digits 0 = d.reduced.coefficient.natAbs := by
    rw [digits_literal, digits, Text.ofDigitChars_padded]
  have hfraction : d.literal.fraction? ≠ some [] := by
    intro hnil
    have hlen := d.length_fraction_literal
    rw [hnil] at hlen
    simp [literal, ← hlen] at hnil
  have hcoefficient : signed d.literal.negative d.reduced.coefficient.natAbs = d.reduced.coefficient := by
    rw [reduced, natAbs_signed]
    rfl
  rw [ofLiteral?_eq d.isPlain_literal hfraction (hvalue ▸ d.reduced.coefficient_lt)
    (d.length_fraction_literal ▸ d.reduced.scale_le), hvalue, d.length_fraction_literal, hcoefficient]
  exact dif_pos ⟨d.reduced.coefficient_lt, d.reduced.scale_le⟩

end Decimal
end SequenceTypes
