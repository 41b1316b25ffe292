import SequenceTypes.Proofs.DecimalReading

/-! Errors of texts that are cast to numbers. A text is read in two stages: first it must have the shape of a
literal, in decimal digits of any script, and then its digits must have a number in the range of the type.
A text that fails in the first stage has no valid form, and a text that fails in the second is reported as
out of range. The two kinds of failure tell apart texts in and outside the lexical space of the type, as
long as all digits are ASCII digits; digits of other scripts only fail in the second stage, and there only if
they are read. -/

namespace SequenceTypes

open Traversal

namespace AtomicType

/-- Whether a literal may have the form it has: only decimals have a fraction. -/
def admitsLiteral (t : AtomicType) (l : Literal) : Bool := t = decimal || l.fraction?.isNone

/-- Whether a text has the shape of a number, in decimal digits of any script. -/
def HasShape (t : AtomicType) (cs : List Char) : Prop :=
  ∃ l : Literal, t.admitsLiteral l ∧ l.IsWellFormed ∧ l.Writes cs

/-- Whether a text is in the lexical space of a number type: an optional sign and ASCII digits, for decimals
with an optional fraction. -/
def IsLexical (t : AtomicType) (cs : List Char) : Prop :=
  ∃ l : Literal, t.admitsLiteral l ∧ l.IsAscii ∧ l.Writes cs

/-- The numbers that can be read: those of 64 bits, and those that are rounded to a coefficient of at
most 96 bits. -/
def numberRange : AtomicType → Set ℚ
  | decimal => {q | |q| < 2 ^ 96 - 1 / 2}
  | _ => {q | -2 ^ 63 ≤ q ∧ q ≤ 2 ^ 63 - 1}

/-- Whether digits of other scripts are found. The reader of decimals may stop before it comes to them, but not
among the first 28 digits of a text. -/
def FindsDigits (t : AtomicType) (cs : List Char) : Prop :=
  t = decimal →
    (∀ c ∈ cs, Text.Category.isDecimalDigit c → c.isDigit) ∨ cs.countP Text.Category.isDecimalDigit ≤ 28

/-- Whether a text is in the lexical space, and its number is in range. -/
def IsReadable (t : AtomicType) (cs : List Char) : Prop :=
  ∃ l : Literal, t.admitsLiteral l ∧ l.IsAscii ∧ l.Writes cs ∧ l.value ∈ t.numberRange

end AtomicType

namespace Literal

variable {l : Literal} {cs : List Char} {c : Char}

theorem mem_chars_iff :
    c ∈ l.chars ↔ l.negative ∧ c = '-' ∨ c ∈ l.digits ∨ l.fraction?.isSome ∧ c = '.' := by
  obtain ⟨negative, whole, fraction?⟩ := l
  cases negative <;> cases fraction? <;> simp [chars, digits] <;> tauto

/-- The digits of a literal are the decimal digits of its text: sign and point are none. -/
theorem mem_digits_iff_of_writes (hl : l.IsWellFormed) (h : l.Writes cs) :
    c ∈ l.digits ↔ c ∈ cs ∧ Text.Category.isDecimalDigit c := by
  have hmem : c ∈ l.digits → c ∈ cs := by
    intro hc
    have hchars : c ∈ l.chars := mem_chars_iff.2 (Or.inr (Or.inl hc))
    rcases h with rfl | ⟨_, rfl⟩
    · exact hchars
    · exact List.mem_cons_of_mem _ hchars
  refine ⟨fun hc => ⟨hmem hc, hl.isDecimalDigit c hc⟩, ?_⟩
  rintro ⟨hc, hdigit⟩
  have hplus : c ≠ '+' := by
    rintro rfl
    cases hdigit
  have hchars : c ∈ l.chars := by
    rcases h with rfl | ⟨_, rfl⟩
    · exact hc
    · exact (List.mem_cons.1 hc).resolve_left hplus
  rcases mem_chars_iff.1 hchars with ⟨_, rfl⟩ | hdigits | ⟨_, rfl⟩
  · cases hdigit
  · exact hdigits
  · cases hdigit

theorem countP_chars (hl : l.IsWellFormed) :
    l.chars.countP Text.Category.isDecimalDigit = l.digits.length := by
  have hdigits := List.countP_eq_length.2 hl.isDecimalDigit
  obtain ⟨negative, whole, fraction?⟩ := l
  have hminus : Text.Category.isDecimalDigit '-' = false := by decide +kernel
  have hpoint : Text.Category.isDecimalDigit '.' = false := by decide +kernel
  rw [← hdigits]
  cases negative <;> cases fraction? <;> simp [chars, digits, hminus, hpoint]

theorem countP_of_writes (hl : l.IsWellFormed) (h : l.Writes cs) :
    cs.countP Text.Category.isDecimalDigit = l.digits.length := by
  rw [← countP_chars hl]
  rcases h with rfl | ⟨_, rfl⟩
  · rfl
  · exact List.countP_cons_of_neg (by decide +kernel)

end Literal

theorem AtomicType.isLexical_iff {t : AtomicType} {cs : List Char} :
    t.IsLexical cs ↔ t.HasShape cs ∧ ∀ c ∈ cs, Text.Category.isDecimalDigit c → c.isDigit := by
  constructor
  · rintro ⟨l, ht, hl, hwrites⟩
    refine ⟨⟨l, ht, hl.isWellFormed, hwrites⟩, fun c hc hdigit => ?_⟩
    exact hl.isDigit c ((Literal.mem_digits_iff_of_writes hl.isWellFormed hwrites).2 ⟨hc, hdigit⟩)
  · rintro ⟨⟨l, ht, hl, hwrites⟩, hascii⟩
    refine ⟨l, ht, ⟨hl.digits_ne_nil, fun c hc => ?_⟩, hwrites⟩
    obtain ⟨hmem, hdigit⟩ := (Literal.mem_digits_iff_of_writes hl hwrites).1 hc
    exact hascii c hmem hdigit

/-! ### Decimals that are too large -/

theorem Text.half_le_iff {cs : List Char} (hcs : ∀ c ∈ cs, c.isDigit) :
    (1 / 2 : ℚ) ≤ Nat.ofDigitChars 10 cs 0 / 10 ^ cs.length ↔
      ∃ c rest, cs = c :: rest ∧ 5 ≤ c.toNat - '0'.toNat := by
  cases cs with
  | nil =>
      refine iff_of_false (by norm_num) ?_
      rintro ⟨_, _, heq, _⟩
      cases heq
  | cons c rest =>
      have hrest := ofDigitChars_lt (List.forall_mem_cons.1 hcs).2
      have hnat : (1 / 2 : ℚ) ≤ Nat.ofDigitChars 10 (c :: rest) 0 / 10 ^ (c :: rest).length ↔
          1 * 10 ^ (c :: rest).length ≤ Nat.ofDigitChars 10 (c :: rest) 0 * 2 := by
        rw [div_le_div_iff₀ (by norm_num) (by positivity)]
        exact_mod_cast Iff.rfl
      rw [hnat, Nat.ofDigitChars_cons, Nat.ofDigitChars_eq_ofDigitChars_zero, List.length_cons, pow_succ]
      generalize Nat.ofDigitChars 10 rest 0 = r at hrest
      generalize hd : c.toNat - '0'.toNat = d
      generalize 10 ^ rest.length = u at hrest
      constructor
      · intro h
        refine ⟨c, rest, rfl, ?_⟩
        by_contra hsmall
        nlinarith
      · rintro ⟨_, _, heq, hlarge⟩
        cases heq
        nlinarith

namespace Decimal

variable {n scale digit : Nat} {cs : List Char} {p : Nat × Nat}

theorem roundAt_fits (hn : n < limit) (hscale : scale ≤ 28) (h : roundAt n scale digit = some p) :
    p.1 < limit ∧ p.2 ≤ 28 := by
  rw [roundAt] at h
  split at h
  · cases h
    exact ⟨hn, hscale⟩
  · split at h
    · next hroom =>
        cases h
        exact ⟨hroom, hscale⟩
    · obtain ⟨_, heq⟩ := Option.ite_none_left_eq_some.1 h
      cases heq
      have hten : 10 < limit := by decide
      exact ⟨by dsimp only; omega, by dsimp only; omega⟩

/-- Rounding fails only where the integers end. -/
theorem roundAt_eq_none_iff (hn : n < limit) :
    roundAt n scale digit = none ↔ scale = 0 ∧ n + 1 = limit ∧ 5 ≤ digit := by
  rw [roundAt]
  split
  · simp; omega
  · split
    · simp; omega
    · split
      · simp; omega
      · simp; omega

theorem readFraction_fits (hn : n < limit) (hscale : scale ≤ 28) (h : readFraction n scale cs = some p) :
    p.1 < limit ∧ p.2 ≤ 28 := by
  rcases readFraction_cases hn hscale cs with
    ⟨_, hfits, hlength, hread⟩ | ⟨_, _, _, _, _, hfits, hlength, ⟨_, hread⟩ | ⟨_, _, hread⟩⟩
  · rw [hread] at h
    cases h
    exact ⟨hfits, hlength⟩
  · cases hread.symm.trans h
  · exact roundAt_fits hfits hlength (hread.symm.trans h)

theorem readFraction_ne_none (hn : n < limit) (hscale : scale ≤ 28) (hpos : scale ≠ 0)
    (hcs : ∀ c ∈ cs, c.isDigit) : readFraction n scale cs ≠ none := by
  rcases readFraction_cases hn hscale cs with
    ⟨_, _, _, hread⟩ | ⟨_, c, _, rfl, _, hfits, _, ⟨hc, _⟩ | ⟨_, _, hread⟩⟩
  · rw [hread]
    exact Option.some_ne_none _
  · rw [hcs c (by simp)] at hc
    cases hc
  · rw [hread]
    intro hnone
    have hzero := ((roundAt_eq_none_iff hfits).1 hnone).1
    omega

/-- Only the largest integer is too large to be rounded up, and its fraction has to be a half or more. -/
theorem readFraction_eq_none_iff (hn : n < limit) (hcs : ∀ c ∈ cs, c.isDigit) :
    readFraction n 0 cs = none ↔ n + 1 = limit ∧ ∃ c rest, cs = c :: rest ∧ 5 ≤ c.toNat - '0'.toNat := by
  cases cs with
  | nil => simp [readFraction]
  | cons c rest =>
      obtain ⟨hc, hrest⟩ := List.forall_mem_cons.1 hcs
      have hstep : readFraction n 0 (c :: rest) =
          if limit ≤ 10 * n + (c.toNat - '0'.toNat) then roundAt n 0 (c.toNat - '0'.toNat)
          else readFraction (10 * n + (c.toNat - '0'.toNat)) 1 rest := by
        rw [readFraction, if_pos hc]
        simp
      have hten : 10 < limit := by decide
      rw [hstep]
      split
      · rw [roundAt_eq_none_iff hn]
        simp
      · next hroom =>
          refine iff_of_false (readFraction_ne_none (by omega) (by omega) (by omega) hrest) ?_
          rintro ⟨hlast, _⟩
          omega

/-- Numbers of at most 28 digits are below the limit. -/
theorem ofDigitChars_lt_limit (hcs : ∀ c ∈ cs, c.isDigit) (hlength : cs.length ≤ 28) :
    Nat.ofDigitChars 10 cs 0 < limit :=
  calc Nat.ofDigitChars 10 cs 0
    _ < 10 ^ cs.length := Text.ofDigitChars_lt hcs
    _ ≤ 10 ^ 28 := Nat.pow_le_pow_right (by omega) hlength
    _ < limit := by decide

/-- The reader does not stop among the first 28 digits of a literal. -/
theorem isDigit_of_readFraction {ds : List Char} (hds : ∀ c ∈ ds, c.isDigit)
    (hlength : ds.length + cs.length ≤ 28) (h : readFraction (Nat.ofDigitChars 10 ds 0) 0 cs = some p) :
    ∀ c ∈ cs, c.isDigit := by
  have hn := ofDigitChars_lt_limit hds (by omega)
  rcases readFraction_cases hn (Nat.zero_le 28) cs with
    ⟨hdigits, _⟩ | ⟨taken, c, rest, rfl, htaken, _, _, ⟨_, hread⟩ | ⟨hc, hstop, _⟩⟩
  · exact hdigits
  · cases hread.symm.trans h
  · rw [List.length_append, List.length_cons] at hlength
    have hread : ∀ d ∈ ds ++ taken ++ [c], d.isDigit := by
      simp only [List.forall_mem_append, List.forall_mem_singleton]
      exact ⟨⟨hds, htaken⟩, hc⟩
    have hroom := ofDigitChars_lt_limit hread (by simp only [List.length_append, List.length_singleton]; omega)
    rw [Nat.ofDigitChars_append, Nat.ofDigitChars_append, Nat.ofDigitChars_cons] at hroom
    have hroom : 10 * Nat.ofDigitChars 10 taken (Nat.ofDigitChars 10 ds 0) + (c.toNat - '0'.toNat) < limit :=
      hroom
    omega

theorem limit_cast : (limit : ℚ) = 2 ^ 96 := by
  rw [limit, Nat.pow_eq]
  norm_num

/-- What is read is a decimal unless it is half a unit below the limit or more. -/
theorem isSome_bind_readFraction_iff (hcs : ∀ c ∈ cs, c.isDigit) (hn : n < limit) (negative : Bool) :
    ((readFraction n 0 cs).bind fun p => make? (signed negative p.1) p.2).isSome ↔
      (n : ℚ) + Nat.ofDigitChars 10 cs 0 / 10 ^ cs.length < 2 ^ 96 - 1 / 2 := by
  have hmake : ((readFraction n 0 cs).bind fun p => make? (signed negative p.1) p.2).isSome ↔
      ¬readFraction n 0 cs = none := by
    cases hread : readFraction n 0 cs with
    | none => simp
    | some p =>
        obtain ⟨hfits, hscale⟩ := readFraction_fits hn (Nat.zero_le 28) hread
        obtain ⟨d, hd, _⟩ := exists_make?_signed hfits hscale negative
        simp [hd]
  have hfraction : (Nat.ofDigitChars 10 cs 0 : ℚ) / 10 ^ cs.length < 1 := by
    rw [div_lt_one (by positivity)]
    exact_mod_cast Text.ofDigitChars_lt hcs
  rw [hmake, readFraction_eq_none_iff hn hcs, ← Text.half_le_iff hcs, ← limit_cast]
  by_cases hlast : n + 1 = limit
  · have hlast' : (n : ℚ) + 1 = limit := by exact_mod_cast hlast
    rw [and_iff_right hlast, not_le]
    constructor <;> intro h <;> linarith
  · have hbelow : (n : ℚ) + 2 ≤ limit := by exact_mod_cast (by omega : n + 2 ≤ limit)
    exact iff_of_true (fun h => hlast h.1) (by linarith)

theorem isDigit_of_ofLiteral? {l : Literal} {d : Decimal} (hlength : l.digits.length ≤ 28)
    (h : ofLiteral? l = some d) : ∀ c ∈ l.digits, c.isDigit := by
  obtain ⟨n, hn, h⟩ := Option.bind_eq_some_iff.1 h
  obtain ⟨hall, heq⟩ := Option.ite_none_right_eq_some.1 hn
  obtain ⟨-, h⟩ := Option.ite_none_left_eq_some.1 h
  obtain ⟨p, hread, -⟩ := Option.bind_eq_some_iff.1 h
  cases heq
  have hwhole := List.all_eq_true.1 hall
  rw [Literal.digits] at hlength ⊢
  rw [List.length_append] at hlength
  refine List.forall_mem_append.2 ⟨hwhole, ?_⟩
  cases hfraction : l.fraction? with
  | none => simp
  | some ds =>
      by_cases hnil : ds = []
      · simp [hnil]
      · rw [hfraction] at hlength
        rw [hfraction, Option.elim_some, if_neg hnil] at hread
        exact isDigit_of_readFraction hwhole hlength hread

/-- A literal is read unless it has digits of another script that the reader comes to, or its number is
rounded to one of more than 96 bits. -/
theorem isSome_ofLiteral?_iff {l : Literal} (hl : l.IsWellFormed)
    (hfound : (∀ c ∈ l.digits, c.isDigit) ∨ l.digits.length ≤ 28) :
    (ofLiteral? l).isSome ↔ l.IsAscii ∧ l.value ∈ AtomicType.decimal.numberRange := by
  by_cases hdigits : ∀ c ∈ l.digits, c.isDigit
  · obtain ⟨ds, hds, hmagnitude, hread⟩ := ofLiteral?_of_isDigit hdigits
    have hrange : l.value ∈ AtomicType.decimal.numberRange ↔ l.magnitude < 2 ^ 96 - 1 / 2 := by
      rw [← l.abs_value]
      rfl
    rw [and_iff_right ⟨hl.digits_ne_nil, hdigits⟩, hread, hrange]
    by_cases hwhole : limit ≤ Nat.ofDigitChars 10 l.whole 0
    · rw [if_pos hwhole]
      have hlimit : (limit : ℚ) ≤ Nat.ofDigitChars 10 l.whole 0 := by exact_mod_cast hwhole
      have hlarge := hlimit.trans l.whole_le_magnitude
      rw [limit_cast] at hlarge
      exact iff_of_false (by simp) (by linarith)
    · rw [if_neg hwhole, hmagnitude, Text.ofDigitChars_cast]
      exact isSome_bind_readFraction_iff hds (by omega) l.negative
  · refine iff_of_false (fun hsome => ?_) fun h => hdigits h.1.isDigit
    obtain ⟨d, hd⟩ := Option.isSome_iff_exists.1 hsome
    exact hdigits (isDigit_of_ofLiteral? (hfound.resolve_left hdigits) hd)

end Decimal

namespace Literal

variable {l : Literal} {t : AtomicType}

theorem value_of_fraction?_eq_none (hl : l.fraction? = none) :
    l.value = (Decimal.signed l.negative (Nat.ofDigitChars 10 l.whole 0) : ℚ) := by
  have hmagnitude : l.magnitude = Nat.ofDigitChars 10 l.whole 0 := by
    simp [magnitude, places, hl]
  rw [value, hmagnitude, Decimal.signed]
  split <;> simp

theorem isSome_toInt?_int64?_iff (hl : l.IsWellFormed) (hfraction : l.fraction? = none) (ht : t ≠ .decimal) :
    (l.toInt?.bind Cast.int64?).isSome ↔ l.IsAscii ∧ l.value ∈ t.numberRange := by
  have hrange : l.value ∈ t.numberRange ↔ -2 ^ 63 ≤ l.value ∧ l.value ≤ 2 ^ 63 - 1 := by
    cases t with
    | decimal => exact absurd rfl ht
    | _ => rfl
  have hwhole : l.digits = l.whole := by
    rw [digits, hfraction, Option.getD_none, List.append_nil]
  rw [hrange, value_of_fraction?_eq_none hfraction]
  by_cases hdigits : ∀ c ∈ l.whole, c.isDigit
  · have hascii : l.IsAscii := ⟨hl.digits_ne_nil, hwhole.symm ▸ hdigits⟩
    rw [and_iff_right hascii, toInt?_eq_some_iff.2 ⟨hdigits, rfl⟩, Option.bind_some, Cast.int64?]
    generalize Decimal.signed l.negative (Nat.ofDigitChars 10 l.whole 0) = n
    have hcast : (-2 ^ 63 ≤ (n : ℚ) ∧ (n : ℚ) ≤ 2 ^ 63 - 1) ↔ -2 ^ 63 ≤ n ∧ n ≤ 2 ^ 63 - 1 := by
      exact_mod_cast Iff.rfl
    rw [hcast, Int64.toInt_minValue, Int64.toInt_maxValue, Option.isSome_ite]
  · refine iff_of_false (fun hsome => ?_) fun h => hdigits (hwhole ▸ h.1.isDigit)
    obtain ⟨m, hm⟩ := Option.isSome_iff_exists.1 hsome
    obtain ⟨n, hn, _⟩ := Option.bind_eq_some_iff.1 hm
    exact hdigits (toInt?_eq_some_iff.1 hn).1

end Literal

/-! ### The two stages -/

def FailsWith {α : Type} (kind : ErrorKind) (result : Except Cause α) : Prop :=
  ∃ c, result = .error c ∧ c.kind = kind

theorem FailsWith.not_isOk {α : Type} {kind : ErrorKind} {result : Except Cause α}
    (h : FailsWith kind result) : ¬result.isOk := by
  obtain ⟨c, rfl, _⟩ := h
  exact Bool.false_ne_true

theorem FailsWith.unique {α : Type} {j k : ErrorKind} {result : Except Cause α} (hj : FailsWith j result)
    (hk : FailsWith k result) : j = k := by
  obtain ⟨c, hc, rfl⟩ := hj
  obtain ⟨d, hd, rfl⟩ := hk
  rw [Except.error.inj (hc.symm.trans hd)]

namespace Cast

variable {t : AtomicType} {x : AtomicValue} {l : Literal} {cs : List Char}

/-- The first stage: a literal of a form that the type admits. -/
def literal? (t : AtomicType) (cs : List Char) : Option Literal :=
  if t = .decimal then Literal.ofDecimal? cs else Literal.ofInteger? cs

/-- The second stage: the number of a literal. -/
def number? (t : AtomicType) (l : Literal) : Option AtomicValue :=
  if t = .decimal then (Decimal.ofLiteral? l).map .decimal
  else (l.toInt?.bind int64?).map (.integer t)

theorem literal?_eq_some_iff :
    literal? t cs = some l ↔ t.admitsLiteral l ∧ l.IsWellFormed ∧ l.Writes cs := by
  rw [literal?, AtomicType.admitsLiteral]
  by_cases ht : t = .decimal
  · rw [if_pos ht, Literal.ofDecimal?_eq_some_iff]
    simp [ht]
  · rw [if_neg ht, Literal.ofInteger?_eq_some_iff]
    simp [ht]

theorem isSome_number?_iff (hl : l.IsWellFormed) (ht : t.admitsLiteral l)
    (hfound : t = .decimal → (∀ c ∈ l.digits, c.isDigit) ∨ l.digits.length ≤ 28) :
    (number? t l).isSome ↔ l.IsAscii ∧ l.value ∈ t.numberRange := by
  rw [number?]
  by_cases hdecimal : t = .decimal
  · subst hdecimal
    rw [if_pos rfl, Option.isSome_map]
    exact Decimal.isSome_ofLiteral?_iff hl (hfound rfl)
  · rw [if_neg hdecimal, Option.isSome_map]
    have hfraction : l.fraction? = none := by simpa [AtomicType.admitsLiteral, hdecimal] using ht
    exact Literal.isSome_toInt?_int64?_iff hl hfraction hdecimal

/-- Where the type has no range of its own, what has 64 bits is read. -/
theorem toInteger_of_isTextual (ht : ∀ n, inRange t n) (hx : x.isTextual) :
    toInteger t x =
      orNotRepresentable t x.stringValue
          (Literal.ofInteger? (Text.collapse x.stringValue.toList)) >>= fun l =>
        orOutOfRange t x.stringValue ((l.toInt?.bind int64?).map (.integer t)) := by
  have hread : toInt64 t x =
      orNotRepresentable t x.stringValue
          (Literal.ofInteger? (Text.collapse x.stringValue.toList)) >>= fun l =>
        orOutOfRange t x.stringValue (l.toInt?.bind int64?) := by
    cases x with
    | untyped _ | string _ _ => rfl
    | _ => cases hx
  rw [toInteger, hread]
  cases Literal.ofInteger? (Text.collapse x.stringValue.toList) with
  | none => rfl
  | some l =>
      cases hnumber : l.toInt?.bind int64? with
      | none => simp [orNotRepresentable, orOutOfRange, hnumber, bind, Except.bind]
      | some n => simp [orNotRepresentable, orOutOfRange, hnumber, bind, Except.bind, ht]

/-- A cast of text to a number reads a literal, and then its number. -/
theorem cast_eq_stages (ht : t = .integer ∨ t = .long ∨ t = .decimal) (hx : x.isTextual)
    (hne : x.type ≠ t) (ctx : StaticContext) :
    t.cast ctx x =
      orNotRepresentable t x.stringValue (literal? t (Text.collapse x.stringValue.toList)) >>= fun l =>
        (orOutOfRange t x.stringValue (number? t l)).map ([·]) := by
  have hinteger : ∀ u : AtomicType, u ≠ .decimal → (∀ n, inRange u n) →
      (toInteger u x).map ([·]) =
        orNotRepresentable u x.stringValue (literal? u (Text.collapse x.stringValue.toList)) >>= fun l =>
          (orOutOfRange u x.stringValue (number? u l)).map ([·]) := by
    intro u hu hrange
    simp only [toInteger_of_isTextual hrange hx, literal?, number?, if_neg hu]
    cases Literal.ofInteger? (Text.collapse x.stringValue.toList) <;> rfl
  rcases ht with rfl | rfl | rfl
  · rw [AtomicType.cast_of_type_ne rfl rfl hne]
    exact hinteger .integer (by decide) fun _ => rfl
  · rw [AtomicType.cast_of_type_ne rfl rfl hne]
    exact hinteger .long (by decide) fun _ => rfl
  · rw [AtomicType.decimal_cast_eq hne, toDecimal_of_isTextual hx]
    show _ = orNotRepresentable .decimal x.stringValue
      (Literal.ofDecimal? (Text.collapse x.stringValue.toList)) >>= _
    cases Literal.ofDecimal? (Text.collapse x.stringValue.toList) with
    | none => rfl
    | some l =>
        show (orOutOfRange .decimal x.stringValue (Decimal.ofLiteral? l)).map _ =
          (orOutOfRange .decimal x.stringValue ((Decimal.ofLiteral? l).map AtomicValue.decimal)).map _
        cases Decimal.ofLiteral? l <;> rfl

end Cast

namespace AtomicType

variable {t : AtomicType} {x : AtomicValue}

theorem IsReadable.hasShape {cs : List Char} (h : t.IsReadable cs) : t.HasShape cs := by
  obtain ⟨l, ht, hl, hwrites, _⟩ := h
  exact ⟨l, ht, hl.isWellFormed, hwrites⟩

/-- A text has at most one literal, whose number can be read if the text is readable. -/
theorem IsReadable.isSome_number? {l : Literal} {cs : List Char} (h : t.IsReadable cs)
    (hread : Cast.literal? t cs = some l) : (Cast.number? t l).isSome := by
  obtain ⟨k, hk, hascii, hwrites, hrange⟩ := h
  have hkread : Cast.literal? t cs = some k :=
    Cast.literal?_eq_some_iff.2 ⟨hk, hascii.isWellFormed, hwrites⟩
  obtain rfl : k = l := Option.some.inj (hkread.symm.trans hread)
  exact (Cast.isSome_number?_iff hascii.isWellFormed hk fun _ => Or.inl hascii.isDigit).2 ⟨hascii, hrange⟩

theorem isReadable_of_isSome_number? {l : Literal} {cs : List Char} (hfound : t.FindsDigits cs)
    (hread : Cast.literal? t cs = some l) (h : (Cast.number? t l).isSome) : t.IsReadable cs := by
  obtain ⟨hadmits, hl, hwrites⟩ := Cast.literal?_eq_some_iff.1 hread
  have hfound : t = .decimal → (∀ c ∈ l.digits, c.isDigit) ∨ l.digits.length ≤ 28 := by
    intro ht
    rcases hfound ht with hascii | hfew
    · refine Or.inl fun c hc => ?_
      obtain ⟨hmem, hdigit⟩ := (Literal.mem_digits_iff_of_writes hl hwrites).1 hc
      exact hascii c hmem hdigit
    · rw [Literal.countP_of_writes hl hwrites] at hfew
      exact Or.inr hfew
  obtain ⟨hascii, hrange⟩ := (Cast.isSome_number?_iff hl hadmits hfound).1 h
  exact ⟨l, hadmits, hascii, hwrites, hrange⟩

/-- A cast of text to a number has one of three outcomes. -/
theorem cast_text_cases (ht : t = .integer ∨ t = .long ∨ t = .decimal) (hx : x.isTextual)
    (hne : x.type ≠ t) (ctx : StaticContext) :
    let cs := Text.collapse x.stringValue.toList
    (¬t.HasShape cs ∧ FailsWith .castImpossible (t.cast ctx x)) ∨
    (t.HasShape cs ∧ ¬t.IsReadable cs ∧ FailsWith .valueOutOfRange (t.cast ctx x)) ∨
    (t.HasShape cs ∧ (t.FindsDigits cs → t.IsReadable cs) ∧ (t.cast ctx x).isOk) := by
  intro cs
  have hcast := Cast.cast_eq_stages ht hx hne ctx
  cases hliteral : Cast.literal? t cs with
  | none =>
      left
      have hshape : ¬t.HasShape cs := by
        rintro ⟨l, hl⟩
        rw [Cast.literal?_eq_some_iff.2 hl] at hliteral
        cases hliteral
      rw [hliteral] at hcast
      exact ⟨hshape, _, hcast, rfl⟩
  | some l =>
      right
      have hshape : t.HasShape cs := ⟨l, Cast.literal?_eq_some_iff.1 hliteral⟩
      have hstage : t.cast ctx x = (Cast.orOutOfRange t x.stringValue (Cast.number? t l)).map ([·]) := by
        rw [hcast, hliteral]
        rfl
      cases hnumber : Cast.number? t l with
      | none =>
          left
          rw [hnumber] at hstage
          refine ⟨hshape, fun hreadable => ?_, _, hstage, rfl⟩
          have hsome := hreadable.isSome_number? hliteral
          rw [hnumber] at hsome
          cases hsome
      | some b =>
          right
          rw [hnumber] at hstage
          refine ⟨hshape, fun hfound => isReadable_of_isSome_number? hfound hliteral (by rw [hnumber]; rfl), ?_⟩
          rw [hstage]
          rfl

/-- Text that is cast to a number fails for its form exactly if it has no digits in the shape of a number. Where
all decimal digits are ASCII digits, the kind of failure tells whether the text is in the lexical space. And
where digits of other scripts are found, the text fails for its range exactly if it has the shape but no number
in range that is written in ASCII digits. -/
theorem number_failures_exact (ht : t = .integer ∨ t = .long ∨ t = .decimal) (hx : x.isTextual)
    (hne : x.type ≠ t) (ctx : StaticContext) :
    let cs := Text.collapse x.stringValue.toList
    ((∀ c ∈ cs, Text.Category.isDecimalDigit c → c.isDigit) →
      (¬t.IsLexical cs → FailsWith .castImpossible (t.cast ctx x)) ∧
      (FailsWith .valueOutOfRange (t.cast ctx x) → t.IsLexical cs)) ∧
    (FailsWith .castImpossible (t.cast ctx x) ↔ ¬t.HasShape cs) ∧
    (t.FindsDigits cs →
      (FailsWith .valueOutOfRange (t.cast ctx x) ↔ t.HasShape cs ∧ ¬t.IsReadable cs) ∧
      ((t.cast ctx x).isOk ↔ t.IsReadable cs)) := by
  intro cs
  have houtcome : (FailsWith .castImpossible (t.cast ctx x) ↔ ¬t.HasShape cs) ∧
      (FailsWith .valueOutOfRange (t.cast ctx x) → t.HasShape cs) ∧
      (t.FindsDigits cs → (FailsWith .valueOutOfRange (t.cast ctx x) ↔ t.HasShape cs ∧ ¬t.IsReadable cs) ∧
        ((t.cast ctx x).isOk ↔ t.IsReadable cs)) := by
    rcases cast_text_cases ht hx hne ctx with
      ⟨hshape, hfails⟩ | ⟨hshape, hreadable, hfails⟩ | ⟨hshape, hreadable, hok⟩
    · have hrange : ¬FailsWith .valueOutOfRange (t.cast ctx x) := fun h => by cases h.unique hfails
      exact ⟨iff_of_true hfails hshape, fun h => absurd h hrange, fun _ =>
        ⟨iff_of_false hrange fun h => hshape h.1, iff_of_false hfails.not_isOk fun h => hshape h.hasShape⟩⟩
    · have hform : ¬FailsWith .castImpossible (t.cast ctx x) := fun h => by cases h.unique hfails
      exact ⟨iff_of_false hform (not_not_intro hshape), fun _ => hshape, fun _ =>
        ⟨iff_of_true hfails ⟨hshape, hreadable⟩, iff_of_false hfails.not_isOk hreadable⟩⟩
    · exact ⟨iff_of_false (fun h => h.not_isOk hok) (not_not_intro hshape), fun _ => hshape, fun hfound =>
        ⟨iff_of_false (fun h => h.not_isOk hok) fun h => h.2 (hreadable hfound),
          iff_of_true hok (hreadable hfound)⟩⟩
  obtain ⟨hshape, hrange, hfound⟩ := houtcome
  refine ⟨fun hascii => ⟨fun hlexical => ?_, fun hfails => ?_⟩, hshape, hfound⟩
  · exact hshape.2 fun h => hlexical (isLexical_iff.2 ⟨h, hascii⟩)
  · exact isLexical_iff.2 ⟨hrange hfails, hascii⟩

/-- The least number that is too large for a decimal is in the lexical space, and a hexadecimal number is
not in that of the integers. -/
theorem failures_of_large_and_malformed :
    let large : AtomicValue := .untyped "\n-79228162514264337593543950335.5"
    let malformed : AtomicValue := .string .token "0x1F"
    FailsWith .valueOutOfRange (decimal.cast .initial large) ∧
      decimal.IsLexical (Text.collapse large.stringValue.toList) ∧
      FailsWith .castImpossible (long.cast .initial malformed) := by
  intro large malformed
  have hascii : ∀ c ∈ Text.collapse large.stringValue.toList, Text.Category.isDecimalDigit c → c.isDigit := by
    intro c hc hdigit
    have hall := List.all_eq_true.1 (by decide +kernel : (Text.collapse large.stringValue.toList).all
      fun c => !Text.Category.isDecimalDigit c || c.isDigit) c hc
    simpa [hdigit] using hall
  let l : Literal := ⟨true, "79228162514264337593543950335".toList, some "5".toList⟩
  have hl : l.IsAscii := ⟨by decide, List.all_eq_true.1 (by decide)⟩
  have hliteral : Cast.literal? .decimal (Text.collapse large.stringValue.toList) = some l :=
    Cast.literal?_eq_some_iff.2 ⟨rfl, hl.isWellFormed, Or.inl (by decide +kernel)⟩
  have hnumber : (Cast.number? .decimal l).isSome = false := by decide +kernel
  obtain ⟨hlexical, _, hfound⟩ :=
    number_failures_exact (t := decimal) (x := large) (Or.inr (Or.inr rfl)) rfl (by decide) .initial
  have hfails : FailsWith .valueOutOfRange (decimal.cast .initial large) := by
    refine (hfound fun _ => Or.inl hascii).1.2 ⟨⟨_, Cast.literal?_eq_some_iff.1 hliteral⟩, fun h => ?_⟩
    rw [h.isSome_number? hliteral] at hnumber
    cases hnumber
  obtain ⟨_, hshape, _⟩ :=
    number_failures_exact (t := long) (x := malformed) (Or.inr (Or.inl rfl)) rfl (by decide) .initial
  refine ⟨hfails, (hlexical hascii).2 hfails, hshape.2 ?_⟩
  rintro ⟨l, hl⟩
  have hnone : Cast.literal? .long (Text.collapse malformed.stringValue.toList) = none :=
    Option.isNone_iff_eq_none.1 (by decide +kernel)
  cases hnone.symm.trans (Cast.literal?_eq_some_iff.2 hl)

/-- A digit of another script is no integer in the lexical space, but it is reported as out of range. -/
theorem other_digits_out_of_range :
    let x : AtomicValue := .string .string "٣"
    ¬integer.IsLexical (Text.collapse x.stringValue.toList) ∧
      FailsWith .valueOutOfRange (integer.cast .initial x) ∧
      ¬FailsWith .castImpossible (integer.cast .initial x) := by
  intro x
  have hfails : FailsWith .valueOutOfRange (integer.cast .initial x) := by
    refine ⟨.outOfRange .integer "٣", ?_, rfl⟩
    with_unfolding_all rfl
  refine ⟨fun hlexical => ?_, hfails, fun h => ?_⟩
  · have hascii := (isLexical_iff.1 hlexical).2 '٣' (by decide +kernel) (by decide +kernel)
    cases hascii
  · cases h.unique hfails

end AtomicType
end SequenceTypes
