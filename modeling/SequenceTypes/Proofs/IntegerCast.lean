import Mathlib.Data.Rat.Floor
import Mathlib.Data.Set.Defs
import SequenceTypes.Proofs.LexicalRoundTrip

/-! Casts to integers. A boolean, a decimal, an integer and the text of an integer denote a number. Its
fraction is dropped, and the cast succeeds exactly if what is left is in the range of the target: what
does not fit in 64 bits is refused when it is read, and the narrower ranges are checked after that. -/

namespace SequenceTypes

open Traversal

/-- An integer as text: an optional sign and ASCII digits, at least one. -/
inductive IntegerText : List Char → Int → Prop where
  | unsigned {ds : List Char} (hne : ds ≠ []) (hds : ∀ c ∈ ds, c.isDigit) :
      IntegerText ds (Nat.ofDigitChars 10 ds 0)
  | plus {ds : List Char} (hne : ds ≠ []) (hds : ∀ c ∈ ds, c.isDigit) :
      IntegerText ('+' :: ds) (Nat.ofDigitChars 10 ds 0)
  | minus {ds : List Char} (hne : ds ≠ []) (hds : ∀ c ∈ ds, c.isDigit) :
      IntegerText ('-' :: ds) (-Nat.ofDigitChars 10 ds 0)

namespace Literal

variable {l : Literal} {cs : List Char} {n : Int}

theorem toInt?_eq_some_iff :
    l.toInt? = some n ↔
      (∀ c ∈ l.whole, c.isDigit) ∧ Decimal.signed l.negative (Nat.ofDigitChars 10 l.whole 0) = n := by
  by_cases hdigits : ∀ c ∈ l.whole, c.isDigit
  · rw [toInt?, Text.ofDigits?_of_isDigit hdigits, Option.map_some, Option.some.injEq]
    exact (and_iff_right hdigits).symm
  · have hall : ¬l.whole.all Char.isDigit := by rwa [List.all_eq_true]
    rw [toInt?, Text.ofDigits?, if_neg hall]
    simp [hdigits]

/-- The reader of integers accepts exactly the texts of integers, and gives the integer. -/
theorem toInt?_ofInteger?_eq_some_iff :
    (ofInteger? cs).bind toInt? = some n ↔ IntegerText cs n := by
  rw [Option.bind_eq_some_iff]
  constructor
  · rintro ⟨⟨negative, ds, fraction?⟩, hread, hvalue⟩
    obtain ⟨hfraction, hl, hwrites⟩ := ofInteger?_eq_some_iff.1 hread
    obtain ⟨hds, rfl⟩ := toInt?_eq_some_iff.1 hvalue
    cases hfraction
    have hne : ds ≠ [] := by simpa [digits] using hl.digits_ne_nil
    cases negative with
    | false =>
        rcases hwrites with hcs | ⟨_, hcs⟩
        · rw [hcs, chars_eq, body, Option.elim_none, List.append_nil]
          exact .unsigned hne hds
        · rw [hcs, chars_eq, body, Option.elim_none, List.append_nil]
          exact .plus hne hds
    | true =>
        rcases hwrites with hcs | ⟨hneg, _⟩
        · rw [hcs, chars_eq, body, Option.elim_none, List.append_nil]
          exact .minus hne hds
        · cases hneg
  · -- the literal of a text with the given sign and digits
    have hread : ∀ negative ds, ds ≠ [] → (∀ c ∈ ds, c.isDigit) → Writes ⟨negative, ds, none⟩ cs →
        ofInteger? cs = some ⟨negative, ds, none⟩ := by
      intro negative ds hne hds hwrites
      refine ofInteger?_eq_some_iff.2 ⟨rfl, ⟨?_, ?_⟩, hwrites⟩
      · simpa [digits] using hne
      · intro c hc
        exact Text.isDecimalDigit_of_isDigit (hds c (by simpa [digits] using hc))
    rintro (⟨hne, hds⟩ | ⟨hne, hds⟩ | ⟨hne, hds⟩)
    · refine ⟨⟨false, _, none⟩, hread _ _ hne hds (Or.inl ?_), toInt?_eq_some_iff.2 ⟨hds, rfl⟩⟩
      simp [chars]
    · refine ⟨⟨false, _, none⟩, hread _ _ hne hds (Or.inr ⟨rfl, ?_⟩), toInt?_eq_some_iff.2 ⟨hds, rfl⟩⟩
      simp [chars]
    · refine ⟨⟨true, _, none⟩, hread _ _ hne hds (Or.inl ?_), toInt?_eq_some_iff.2 ⟨hds, rfl⟩⟩
      simp [chars]

end Literal

/-- A number without its fraction: rounded toward zero. -/
def truncate (q : ℚ) : ℤ := if 0 ≤ q then ⌊q⌋ else ⌈q⌉

theorem truncate_intCast (n : ℤ) : truncate n = n := by
  rw [truncate, Int.floor_intCast, Int.ceil_intCast, ite_self]

/-- The integer part of a decimal is its value rounded toward zero, at every scale. -/
theorem Decimal.trunc_eq_truncate (d : Decimal) : d.trunc = truncate d.value := by
  have hpow : (10 : ℚ) ^ d.scale = ((10 ^ d.scale : ℕ) : ℚ) := by push_cast; rfl
  have hvalue : d.value = (d.coefficient : ℚ) / ((10 ^ d.scale : ℕ) : ℚ) := by rw [value, hpow]
  have hpos : (0 : ℚ) < ((10 ^ d.scale : ℕ) : ℚ) := by positivity
  rw [trunc, truncate, hvalue, Rat.floor_intCast_div_natCast, Rat.ceil_intCast_div_natCast,
    Nat.pow_eq, Int.ofNat_eq_natCast]
  have hsign : 0 ≤ (d.coefficient : ℚ) / ((10 ^ d.scale : ℕ) : ℚ) ↔ 0 ≤ d.coefficient := by
    rw [le_div_iff₀ hpos, zero_mul, Int.cast_nonneg_iff]
  by_cases hneg : 0 ≤ d.coefficient
  · rw [if_pos (hsign.2 hneg), Int.tdiv_eq_ediv_of_nonneg hneg]
  · rw [if_neg (mt hsign.1 hneg), ← Int.tdiv_eq_ediv_of_nonneg (by omega), Int.neg_tdiv, neg_neg]

namespace AtomicValue

/-- Whether a value denotes a number. A text denotes an integer if its collapsed form is the text of one. Of
floating-point numbers nothing is said. -/
def Denotes (a : AtomicValue) (q : ℚ) : Prop :=
  match a with
  | boolean b => q = if b then 1 else 0
  | decimal d => q = d.value
  | integer _ n => q = n.toInt
  | untyped s | string _ s => ∃ n : ℤ, IntegerText (Text.collapse s.toList) n ∧ q = n
  | _ => False

def isFloating : AtomicValue → Bool
  | double _ | float _ => true
  | _ => false

end AtomicValue

def AtomicType.integerRange : AtomicType → Set ℤ
  | int => {n | -2 ^ 31 ≤ n ∧ n ≤ 2 ^ 31 - 1}
  | nonNegativeInteger => {n | 0 ≤ n ∧ n ≤ 2 ^ 63 - 1}
  | _ => {n | -2 ^ 63 ≤ n ∧ n ≤ 2 ^ 63 - 1}

namespace Cast

variable {target : AtomicType} {a : AtomicValue} {m : Int64}

theorem orOutOfRange_eq_ok_iff {α : Type} {text : String} {x? : Option α} {x : α} :
    orOutOfRange target text x? = .ok x ↔ x? = some x := by
  cases x? <;> simp [orOutOfRange]

theorem int64?_eq_some_iff {n : Int} : int64? n = some m ↔ m.toInt = n := by
  constructor
  · intro h
    rw [int64?] at h
    obtain ⟨hrange, heq⟩ := Option.ite_none_right_eq_some.1 h
    cases heq
    rw [Int64.toInt_minValue, Int64.toInt_maxValue] at hrange
    exact Int64.toInt_ofInt_of_le (by omega) (by omega)
  · rintro rfl
    exact int64?_toInt m

/-- A text has a 64-bit integer exactly if it is the text of one. -/
theorem toInt64_text_eq_ok_iff {s : String} :
    toInt64 target (.untyped s) = .ok m ↔ IntegerText (Text.collapse s.toList) m.toInt := by
  rw [← Literal.toInt?_ofInteger?_eq_some_iff, toInt64, bind_eq_ok_iff, Option.bind_eq_some_iff]
  refine exists_congr fun l => ?_
  rw [orNotRepresentable_eq_ok_iff, orOutOfRange_eq_ok_iff, Option.bind_eq_some_iff]
  refine and_congr_right fun _ => ?_
  constructor
  · rintro ⟨n, hn, hm⟩
    rw [int64?_eq_some_iff.1 hm]
    exact hn
  · intro hm
    exact ⟨_, hm, int64?_toInt m⟩

/-- The integer of a value is the number it denotes, rounded toward zero. -/
theorem toInt64_eq_ok_iff (ha : a.isFloating = false) :
    toInt64 target a = .ok m ↔ ∃ q, a.Denotes q ∧ truncate q = m.toInt := by
  -- a 64-bit integer is determined by its value, which truncation leaves as it is
  have hinteger : ∀ n : Int64, Except.ok (ε := Cause) n = .ok m ↔
      ∃ q : ℚ, q = n.toInt ∧ truncate q = m.toInt := by
    intro n
    rw [exists_eq_left, truncate_intCast, Int64.toInt_inj, Except.ok.injEq]
  have htext : ∀ s : String, toInt64 target (.untyped s) = .ok m ↔
      ∃ q : ℚ, (∃ n : ℤ, IntegerText (Text.collapse s.toList) n ∧ q = n) ∧ truncate q = m.toInt := by
    intro s
    rw [toInt64_text_eq_ok_iff]
    constructor
    · intro h
      exact ⟨_, ⟨_, h, rfl⟩, truncate_intCast _⟩
    · rintro ⟨_, ⟨n, h, rfl⟩, hm⟩
      rw [truncate_intCast] at hm
      exact hm ▸ h
  cases a with
  | boolean b =>
      cases b with
      | false => exact hinteger 0
      | true => exact hinteger 1
  | integer t n => exact hinteger n
  | decimal d =>
      rw [toInt64, orOutOfRange_eq_ok_iff, int64?_eq_some_iff, d.trunc_eq_truncate]
      show m.toInt = truncate d.value ↔ ∃ q, q = d.value ∧ truncate q = m.toInt
      rw [exists_eq_left, eq_comm]
  | untyped s => exact htext s
  | string t s => exact htext s
  | double _ | float _ => cases ha
  | anyURI _ | qname _ | date _ | dateTime _ | time _ =>
      constructor
      · intro h
        cases h
      · rintro ⟨_, hdenotes, _⟩
        cases hdenotes

/-- The check of the range is the membership in it, for what has 64 bits. -/
theorem inRange_iff (ht : target.isIntegerLike) : inRange target m.toInt ↔ m.toInt ∈ target.integerRange := by
  have hlower := m.le_toInt
  have hupper := m.toInt_lt
  have hmin : Int32.minValue.toInt = -2 ^ 31 := by decide
  have hmax : Int32.maxValue.toInt = 2 ^ 31 - 1 := by decide
  cases target with
  | integer | long =>
      simp only [inRange, AtomicType.integerRange, Set.mem_ofPred_eq, true_iff]
      omega
  | nonNegativeInteger =>
      simp only [inRange, AtomicType.integerRange, Set.mem_ofPred_eq, decide_eq_true_eq]
      omega
  | int =>
      simp only [inRange, AtomicType.integerRange, Set.mem_ofPred_eq, Bool.and_eq_true, decide_eq_true_eq,
        hmin, hmax]
  | _ => cases ht

/-- What is in the range of an integer type has 64 bits. -/
theorem exists_int64_of_mem_integerRange (ht : target.isIntegerLike) {n : ℤ}
    (hn : n ∈ target.integerRange) : ∃ m : Int64, m.toInt = n := by
  have hbounds : -2 ^ 63 ≤ n ∧ n ≤ 2 ^ 63 - 1 := by
    cases target with
    | integer | long => exact hn
    | nonNegativeInteger | int =>
        simp only [AtomicType.integerRange, Set.mem_ofPred_eq] at hn
        omega
    | _ => cases ht
  exact ⟨Int64.ofInt n, Int64.toInt_ofInt_of_le (by omega) (by omega)⟩

theorem toInteger_eq_ok_iff {b : AtomicValue} :
    toInteger target a = .ok b ↔
      ∃ m, toInt64 target a = .ok m ∧ inRange target m.toInt ∧ b = .integer target m := by
  rw [toInteger, bind_eq_ok_iff]
  refine exists_congr fun m => and_congr_right fun _ => ?_
  by_cases hrange : inRange target m.toInt
  · rw [if_pos hrange]
    simp [hrange, eq_comm]
  · rw [if_neg hrange]
    simp [hrange]

end Cast

namespace AtomicType

variable {ctx : StaticContext} {t : AtomicType} {x : AtomicValue}

theorem cast_eq_ok_iff_denotes (ht : t.isIntegerLike) (hx : x.isFloating = false)
    (hne : x.type ≠ t) {r : List AtomicValue} :
    t.cast ctx x = .ok r ↔
      ∃ q m, x.Denotes q ∧ truncate q = m.toInt ∧ m.toInt ∈ t.integerRange ∧
        r = [.integer t m] := by
  have hcast : t.cast ctx x = (Cast.toInteger t x).map ([·]) := by
    cases t with
    | integer | nonNegativeInteger | long | int => exact cast_of_type_ne rfl rfl hne
    | _ => cases ht
  rw [hcast, map_eq_ok_iff]
  constructor
  · rintro ⟨b, hb, rfl⟩
    obtain ⟨m, hm, hrange, rfl⟩ := Cast.toInteger_eq_ok_iff.1 hb
    obtain ⟨q, hq, htrunc⟩ := (Cast.toInt64_eq_ok_iff hx).1 hm
    exact ⟨q, m, hq, htrunc, (Cast.inRange_iff ht).1 hrange, rfl⟩
  · rintro ⟨q, m, hq, htrunc, hrange, rfl⟩
    exact ⟨_, Cast.toInteger_eq_ok_iff.2
      ⟨m, (Cast.toInt64_eq_ok_iff hx).2 ⟨q, hq, htrunc⟩, (Cast.inRange_iff ht).2 hrange, rfl⟩, rfl⟩

/-- A cast to an integer type succeeds exactly if the value denotes a number whose integer part is in the
range of the type, and then yields that integer. -/
theorem cast_to_integer_exact (ht : t.isIntegerLike) (hx : x.isFloating = false)
    (hne : x.type ≠ t) (ctx : StaticContext) :
    ((t.cast ctx x).isOk ↔ ∃ q, x.Denotes q ∧ truncate q ∈ t.integerRange) ∧
    (∀ q, x.Denotes q → truncate q ∈ t.integerRange →
      ∃ m : Int64, t.cast ctx x = .ok [.integer t m] ∧ m.toInt = truncate q) := by
  have hexact : ∀ q, x.Denotes q → truncate q ∈ t.integerRange →
      ∃ m : Int64, t.cast ctx x = .ok [.integer t m] ∧ m.toInt = truncate q := by
    intro q hq hrange
    obtain ⟨m, hm⟩ := Cast.exists_int64_of_mem_integerRange ht hrange
    refine ⟨m, (cast_eq_ok_iff_denotes ht hx hne).2 ⟨q, m, hq, hm.symm, ?_, rfl⟩, hm⟩
    rw [hm]
    exact hrange
  refine ⟨⟨?_, ?_⟩, hexact⟩
  · intro hok
    cases hcast : t.cast ctx x with
    | error e =>
        rw [hcast] at hok
        cases hok
    | ok r =>
        obtain ⟨q, m, hq, htrunc, hrange, _⟩ := (cast_eq_ok_iff_denotes ht hx hne).1 hcast
        rw [← htrunc] at hrange
        exact ⟨q, hq, hrange⟩
  · rintro ⟨q, hq, hrange⟩
    obtain ⟨m, hm, _⟩ := hexact q hq hrange
    rw [hm]
    rfl

/-- A decimal just below the least 64-bit integer, and a small number with more leading zeros than 64 bits
have digits. -/
theorem cast_to_integer_at_limits :
    let below : AtomicValue := .decimal ⟨-92233720368547758089, 1, by decide, by decide⟩
    let small : AtomicValue := .string .token "\t-000000000000000000000042\r\n"
    (∃ m : Int64, long.cast .initial below = .ok [.integer .long m] ∧ m.toInt = -2 ^ 63) ∧
    (∃ m : Int64, int.cast .initial small = .ok [.integer .int m] ∧ m.toInt = -42) := by
  intro below small
  constructor
  · have htrunc : truncate (Decimal.value ⟨-92233720368547758089, 1, by decide, by decide⟩) = -2 ^ 63 := by
      rw [← Decimal.trunc_eq_truncate]
      decide
    obtain ⟨m, hcast, hm⟩ := (cast_to_integer_exact (t := long) (x := below) rfl rfl (by decide)
      .initial).2 _ rfl (by rw [htrunc]; exact ⟨by decide, by decide⟩)
    exact ⟨m, hcast, hm.trans htrunc⟩
  · have hdigits : IntegerText (Text.collapse "\t-000000000000000000000042\r\n".toList) (-42) :=
      .minus (by decide : "000000000000000000000042".toList ≠ []) (List.all_eq_true.1 (by decide))
    have htrunc : truncate ((-42 : ℤ) : ℚ) = -42 := truncate_intCast (-42)
    obtain ⟨m, hcast, hm⟩ := (cast_to_integer_exact (t := int) (x := small) rfl rfl (by decide)
      .initial).2 _ ⟨-42, hdigits, rfl⟩ (by rw [htrunc]; exact ⟨by decide, by decide⟩)
    exact ⟨m, hcast, hm.trans htrunc⟩

end AtomicType
end SequenceTypes
