import Mathlib.Algebra.Ring.Nat
import SequenceTypes.Text.Basic
import SequenceTypes.Text.Category

/-! Runs of digits inside a text. A reader that takes digits off the front of a text stops exactly where
the printed run ends, and text without space passes through the normalization of white space as it is. -/

namespace SequenceTypes.Text

theorem not_isSpace_of_isDigit {c : Char} (hc : c.isDigit) : isSpace c = false := by
  rw [Bool.eq_false_iff]
  intro hspace
  simp only [isSpace, Bool.or_eq_true, decide_eq_true_eq] at hspace
  rcases hspace with ((rfl | rfl) | rfl) | rfl <;> cases hc

theorem not_isBlank_of_isDigit {c : Char} (hc : c.isDigit) : isBlank c = false := by
  obtain ⟨hlower, hupper⟩ := Char.isDigit_iff_toNat.1 hc
  have hlower : 48 ≤ c.toNat := hlower
  have hupper : c.toNat ≤ 57 := hupper
  simp only [isBlank, Bool.or_eq_false_iff, Bool.and_eq_false_iff, decide_eq_false_iff_not]
  omega

theorem isDecimalDigit_of_isDigit {c : Char} (hc : c.isDigit) : Category.isDecimalDigit c := by
  obtain ⟨hlower, hupper⟩ := Char.isDigit_iff_toNat.1 hc
  have hrange : (0x30, 0x39) ∈ Category.decimalDigits := by decide
  refine List.any_eq_true.2 ⟨_, hrange, ?_⟩
  exact Bool.and_eq_true_iff.2 ⟨decide_eq_true hlower, decide_eq_true hupper⟩

theorem isDigit_of_mem_padded {width n : Nat} {c : Char} (hc : c ∈ padded width n) : c.isDigit := by
  rcases List.mem_append.1 hc with hzero | hdigit
  · rw [List.eq_of_mem_replicate hzero]
    rfl
  · exact Nat.isDigit_of_mem_toDigits (by omega) (by omega) hdigit

theorem padded_ne_nil (width n : Nat) : padded width n ≠ [] :=
  List.append_ne_nil_of_right_ne_nil _ Nat.toDigits_ne_nil

theorem exists_padded_eq_cons (width n : Nat) : ∃ c cs, padded width n = c :: cs ∧ c.isDigit := by
  obtain ⟨c, cs, heq⟩ := List.exists_cons_of_ne_nil (padded_ne_nil width n)
  exact ⟨c, cs, heq, isDigit_of_mem_padded (heq ▸ List.mem_cons_self)⟩

theorem le_length_padded (width n : Nat) : width ≤ (padded width n).length := by
  rw [padded, zeroFill, List.length_append, List.length_replicate]
  omega

/-- A number that has no more digits than the width is filled up to that width. -/
theorem length_padded {width n : Nat} (hwidth : 0 < width) (hn : n < 10 ^ width) :
    (padded width n).length = width := by
  have hlen := (Nat.length_toDigits_le_iff (b := 10) (by omega) hwidth).2 hn
  rw [padded, zeroFill, List.length_append, List.length_replicate]
  omega

theorem ofDigits?_of_isDigit {cs : List Char} (hcs : ∀ c ∈ cs, c.isDigit) :
    ofDigits? cs = some (Nat.ofDigitChars 10 cs 0) :=
  if_pos (List.all_eq_true.2 hcs)

/-- A run of digits ends before the first other character. -/
theorem takeWhile_digits {p : Char → Bool} {ds : List Char} (hds : ∀ c ∈ ds, p c) (rest : List Char)
    (hrest : ∀ c ∈ rest.head?, p c = false) : (ds ++ rest).takeWhile p = ds := by
  rw [List.takeWhile_append_of_pos hds]
  cases rest with
  | nil => rw [List.takeWhile_nil, List.append_nil]
  | cons c rest => rw [List.takeWhile_cons_of_neg (by simp [hrest c rfl]), List.append_nil]

theorem dropWhile_digits {p : Char → Bool} {ds : List Char} (hds : ∀ c ∈ ds, p c) (rest : List Char)
    (hrest : ∀ c ∈ rest.head?, p c = false) : (ds ++ rest).dropWhile p = rest := by
  rw [List.dropWhile_append_of_pos hds]
  cases rest with
  | nil => rfl
  | cons c rest => rw [List.dropWhile_cons_of_neg (by simp [hrest c rfl])]

theorem takeWhile_isDigit_padded (width n : Nat) :
    (padded width n).takeWhile Char.isDigit = padded width n := by
  have hdigits : ∀ c ∈ padded width n, c.isDigit := fun _ => isDigit_of_mem_padded
  have htake := takeWhile_digits hdigits [] (by simp)
  rwa [List.append_nil] at htake

theorem dropWhile_isDigit_padded (width n : Nat) : (padded width n).dropWhile Char.isDigit = [] := by
  have hdigits : ∀ c ∈ padded width n, c.isDigit := fun _ => isDigit_of_mem_padded
  have hdrop := dropWhile_digits hdigits [] (by simp)
  rwa [List.append_nil] at hdrop

theorem fields_of_forall {isSeparator : Char → Bool} {cs : List Char}
    (hcs : ∀ c ∈ cs, isSeparator c = false) : fields isSeparator cs = [cs] := by
  induction cs with
  | nil => rfl
  | cons c cs ih =>
      obtain ⟨hc, hcs⟩ := List.forall_mem_cons.1 hcs
      simp [fields, hc, ih hcs]

theorem collapse_of_forall {cs : List Char} (hne : cs ≠ []) (hcs : ∀ c ∈ cs, isSpace c = false) :
    collapse cs = cs := by
  have hwords : words cs = [cs] := by
    rw [words, fields_of_forall hcs]
    simp [hne]
  rw [collapse, hwords, List.intercalate_singleton]

theorem not_isSpace_of_mem_padded {width n : Nat} : ∀ c ∈ padded width n, isSpace c = false :=
  fun _ hc => not_isSpace_of_isDigit (isDigit_of_mem_padded hc)

end SequenceTypes.Text
