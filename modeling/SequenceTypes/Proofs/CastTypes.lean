import SequenceTypes.Cast
import SequenceTypes.Proofs.BaseOrder
import SequenceTypes.Proofs.Traversal

/-! The types of cast values. A conversion yields a value of the target or of a type derived from it, and
only the list type yields anything but a single value. -/

namespace SequenceTypes

open Traversal

namespace Cast

theorem orNotRepresentable_eq_ok_iff {α : Type} {target : AtomicType} {text : String} {x? : Option α}
    {x : α} : orNotRepresentable target text x? = .ok x ↔ x? = some x := by
  cases x? <;> simp [orNotRepresentable]

theorem type_of_toDerivedString {target : AtomicType} {text : String} {b : AtomicValue}
    (h : toDerivedString target text = .ok b) : b.type = target := by
  obtain ⟨cs, _, rfl⟩ := Option.map_eq_some_iff.1 (orNotRepresentable_eq_ok_iff.1 h)
  rfl

theorem type_of_toInteger {target : AtomicType} {a b : AtomicValue} (h : toInteger target a = .ok b) :
    b.type = target := by
  obtain ⟨n, _, hn⟩ := bind_eq_ok_iff.1 h
  split at hn
  · cases hn
    rfl
  · cases hn

/-- A converted value is of the target. Only the union of all numbers keeps the types of the values it is
given. -/
theorem type_eq_of_convert {ctx : StaticContext} {target : AtomicType} {a b : AtomicValue}
    (hnumeric : target ≠ .numeric) (h : convert ctx target a = .ok b) : b.type = target := by
  cases target with
  | numeric => exact absurd rfl hnumeric
  | untyped | string =>
      cases h
      rfl
  | normalizedString | token | language | nmtoken | name | ncname => exact type_of_toDerivedString h
  | anyURI =>
      rw [convert] at h
      split at h
      · cases h
        rfl
      · cases h
  | qname =>
      rw [convert] at h
      split at h
      · obtain ⟨q, _, rfl⟩ := map_eq_ok_iff.1 h
        rfl
      · cases h
  | boolean | double | float | decimal | date | dateTime | time =>
      obtain ⟨x, _, rfl⟩ := map_eq_ok_iff.1 h
      rfl
  | integer | nonNegativeInteger | long | int => exact type_of_toInteger h
  | anyAtomic | notationName | nmtokens => cases h

theorem isNumeric_of_convert {ctx : StaticContext} {a b : AtomicValue}
    (h : convert ctx .numeric a = .ok b) : b.type.isNumeric := by
  rw [convert] at h
  split at h
  · next hnumeric =>
      cases h
      exact hnumeric
  · obtain ⟨x, _, rfl⟩ := map_eq_ok_iff.1 h
    rfl

end Cast

namespace AtomicType

variable {ctx : StaticContext} {target : AtomicType} {a : AtomicValue} {bs : List AtomicValue}

/-- A cast to a type that is no list type yields a single value of the target; only the union of all
numbers lets a number keep the type it has. -/
theorem exact_type_of_cast (htarget : target ≠ .nmtokens) (h : target.cast ctx a = .ok bs) :
    ∃ b, bs = [b] ∧ (b.type = target ∨ target = .numeric ∧ b.type.isNumeric) := by
  rw [cast] at h
  split at h
  · next heq =>
      cases h
      exact ⟨a, rfl, Or.inl heq⟩
  · split at h
    · cases h
    · have hlist : target.isListLike = false := decide_eq_false htarget
      rw [hlist] at h
      obtain ⟨b, hb, rfl⟩ := map_eq_ok_iff.1 h
      refine ⟨b, rfl, ?_⟩
      by_cases hnumeric : target = .numeric
      · subst hnumeric
        exact Or.inr ⟨rfl, Cast.isNumeric_of_convert hb⟩
      · exact Or.inl (Cast.type_eq_of_convert hnumeric hb)

theorem subtypeOf_of_exact_type {t : AtomicType} (h : t = target ∨ target = .numeric ∧ t.isNumeric) :
    t.subtypeOf target := by
  rcases h with rfl | ⟨rfl, hnumeric⟩
  · exact subtypeOf_refl t
  · exact hnumeric

theorem type_of_cast (htarget : target ≠ .nmtokens) (h : target.cast ctx a = .ok bs) :
    ∃ b, bs = [b] ∧ b.type.subtypeOf target := by
  obtain ⟨b, rfl, hb⟩ := exact_type_of_cast htarget h
  exact ⟨b, rfl, subtypeOf_of_exact_type hb⟩

end AtomicType
end SequenceTypes
