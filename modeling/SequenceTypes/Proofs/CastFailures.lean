import SequenceTypes.Proofs.CastTypes

/-! The failures of casts. A cast of an atomic value fails because there is no such cast, because the
target has no values of its own, because the text denotes no value of the target or a value out of its
range, or because a prefix is not bound. Whatever else goes wrong with a sequence goes wrong outside of
casts. -/

namespace SequenceTypes

open Traversal

def Cause.isCastFailure : Cause → Bool
  | noCast _ _ _ | notRepresentable _ _ | outOfRange _ _ | abstractTarget _ | unknownPrefix _ => true
  | _ => false

namespace Cast

/-- Whether a computation fails only as casts of atomic values do. -/
def FailsAsCast {α : Type} (x : Except Cause α) : Prop := ∀ c, x = .error c → c.isCastFailure

variable {α β : Type} {ctx : StaticContext} {target : AtomicType}

@[simp] theorem failsAsCast_ok (a : α) : FailsAsCast (.ok a) := by
  intro c h
  cases h

@[simp] theorem failsAsCast_error_iff {c : Cause} :
    FailsAsCast (.error c : Except Cause α) ↔ c.isCastFailure := by
  simp [FailsAsCast]

@[simp] theorem failsAsCast_map_iff {x : Except Cause α} {f : α → β} :
    FailsAsCast (x.map f) ↔ FailsAsCast x := by
  cases x <;> simp [Except.map]

theorem FailsAsCast.bind {x : Except Cause α} {f : α → Except Cause β} (hx : FailsAsCast x)
    (hf : ∀ a, FailsAsCast (f a)) : FailsAsCast (x >>= f) := by
  cases x with
  | error c => exact failsAsCast_error_iff.2 (hx c rfl)
  | ok a => exact hf a

theorem failsAsCast_mapM {f : α → Except Cause β} (hf : ∀ a, FailsAsCast (f a)) (xs : List α) :
    FailsAsCast (xs.mapM f) := by
  intro c h
  obtain ⟨_, x, _, _, _, hx⟩ := first_failure_of_mapM h
  exact hf x c hx

@[simp] theorem failsAsCast_refuse (a : AtomicValue) : FailsAsCast (refuse a target : Except Cause α) :=
  failsAsCast_error_iff.2 rfl

@[simp] theorem failsAsCast_orNotRepresentable (text : String) (x? : Option α) :
    FailsAsCast (orNotRepresentable target text x?) := by
  cases x? <;> simp [orNotRepresentable, Cause.isCastFailure]

@[simp] theorem failsAsCast_orOutOfRange (text : String) (x? : Option α) :
    FailsAsCast (orOutOfRange target text x?) := by
  cases x? <;> simp [orOutOfRange, Cause.isCastFailure]

@[simp] theorem failsAsCast_elim_refuse (a : AtomicValue) (x? : Option α) :
    FailsAsCast (x?.elim (refuse a target) .ok) := by
  cases x? <;> simp

theorem failsAsCast_toDerivedString (text : String) : FailsAsCast (toDerivedString target text) := by
  simp [toDerivedString]

theorem failsAsCast_resolve (cs : List Char) : FailsAsCast (ctx.resolve cs) := by
  unfold StaticContext.resolve
  split
  · split <;> simp [Cause.isCastFailure]
  · split
    · split <;> simp [Cause.isCastFailure]
    · simp [Cause.isCastFailure]

theorem failsAsCast_toBoolean (a : AtomicValue) : FailsAsCast (toBoolean a) := by
  unfold toBoolean
  split
  · simp
  · split <;> simp

theorem failsAsCast_toDouble (a : AtomicValue) : FailsAsCast (toDouble target a) := by
  unfold toDouble
  split <;> simp

theorem failsAsCast_toSingle (a : AtomicValue) : FailsAsCast (toSingle a) := by
  unfold toSingle
  split <;> simp

theorem failsAsCast_doubleToDecimal (text : String) (x : Double) :
    FailsAsCast (doubleToDecimal text x) := by
  unfold doubleToDecimal
  split <;> simp [Cause.isCastFailure]

theorem failsAsCast_toDecimal (a : AtomicValue) : FailsAsCast (toDecimal a) := by
  unfold toDecimal
  split
  case h_3 | h_4 => exact failsAsCast_doubleToDecimal _ _
  case h_5 | h_6 => exact .bind (by simp) (by simp)
  all_goals simp

theorem failsAsCast_doubleToInteger {f : FloatFormat} (text : String) (x : Floating f) :
    FailsAsCast (doubleToInteger target text x) :=
  .bind (by simp) (by simp)

theorem failsAsCast_toInt64 (a : AtomicValue) : FailsAsCast (toInt64 target a) := by
  unfold toInt64
  split
  case h_4 | h_5 => exact failsAsCast_doubleToInteger _ _
  case h_6 | h_7 => exact .bind (by simp) (by simp)
  all_goals simp

theorem failsAsCast_toInteger (a : AtomicValue) : FailsAsCast (toInteger target a) := by
  refine .bind (failsAsCast_toInt64 a) fun n => ?_
  split <;> simp [Cause.isCastFailure]

theorem failsAsCast_toDate (a : AtomicValue) : FailsAsCast (toDate a) := by
  unfold toDate
  split <;> simp

theorem failsAsCast_toDateTime (a : AtomicValue) : FailsAsCast (toDateTime a) := by
  unfold toDateTime
  split <;> simp

theorem failsAsCast_toTime (a : AtomicValue) : FailsAsCast (toTime a) := by
  unfold toTime
  split <;> simp

theorem failsAsCast_convert (a : AtomicValue) : FailsAsCast (convert ctx target a) := by
  cases target with
  | untyped | string => exact failsAsCast_ok _
  | normalizedString | token | language | nmtoken | name | ncname =>
      exact failsAsCast_toDerivedString a.stringValue
  | anyURI =>
      rw [convert]
      split <;> simp
  | qname =>
      rw [convert]
      split
      · exact failsAsCast_map_iff.2 (failsAsCast_resolve _)
      · exact failsAsCast_refuse a
  | boolean => exact failsAsCast_map_iff.2 (failsAsCast_toBoolean a)
  | numeric =>
      rw [convert]
      split
      · exact failsAsCast_ok a
      · exact failsAsCast_map_iff.2 (failsAsCast_toDouble a)
  | double => exact failsAsCast_map_iff.2 (failsAsCast_toDouble a)
  | float => exact failsAsCast_map_iff.2 (failsAsCast_toSingle a)
  | decimal => exact failsAsCast_map_iff.2 (failsAsCast_toDecimal a)
  | integer | nonNegativeInteger | long | int => exact failsAsCast_toInteger a
  | date => exact failsAsCast_map_iff.2 (failsAsCast_toDate a)
  | dateTime => exact failsAsCast_map_iff.2 (failsAsCast_toDateTime a)
  | time => exact failsAsCast_map_iff.2 (failsAsCast_toTime a)
  | anyAtomic | notationName | nmtokens => exact failsAsCast_refuse a

theorem failsAsCast_toTokens (a : AtomicValue) : FailsAsCast (toTokens ctx target a) := by
  unfold toTokens
  split
  · split
    · exact failsAsCast_error_iff.2 rfl
    · exact failsAsCast_mapM (fun _ => failsAsCast_convert _) _
  · exact failsAsCast_refuse a

/-- A cast of an atomic value fails for that value, and for nothing else. -/
theorem failsAsCast_cast (a : AtomicValue) : FailsAsCast (target.cast ctx a) := by
  unfold AtomicType.cast
  split
  · exact failsAsCast_ok [a]
  · split
    · exact failsAsCast_error_iff.2 rfl
    · split
      · exact failsAsCast_toTokens a
      · exact failsAsCast_map_iff.2 (failsAsCast_convert a)

end Cast
end SequenceTypes
