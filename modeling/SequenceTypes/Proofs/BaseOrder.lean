import SequenceTypes.SeqType.Subtype

/-! The orders below the item types. Occurrences are ordered by containment of their ranges, atomic types
by derivation, node kinds with `node()` on top. Each of the three is a partial order. Tests have no order:
they are compared for overlap, of which only reflexivity remains. -/

namespace SequenceTypes

namespace Occurrence

theorem boundLe_refl (m : Option Nat) : boundLe m m = true := by
  cases m <;> simp [boundLe]

theorem boundLe_trans {l m n : Option Nat} (hlm : boundLe l m) (hmn : boundLe m n) : boundLe l n := by
  cases n with
  | none => cases l <;> rfl
  | some n =>
      cases m with
      | none => simp [boundLe] at hmn
      | some m =>
          cases l with
          | none => simp [boundLe] at hlm
          | some l =>
              simp only [boundLe, decide_eq_true_eq] at hlm hmn ⊢
              exact Nat.le_trans hlm hmn

theorem subtypeOf_iff {a b : Occurrence} :
    a.subtypeOf b ↔ b.lower ≤ a.lower ∧ boundLe a.upper? b.upper? := by
  simp [subtypeOf]

@[simp] theorem subtypeOf_refl (a : Occurrence) : a.subtypeOf a = true :=
  subtypeOf_iff.2 ⟨Nat.le_refl _, boundLe_refl _⟩

theorem subtypeOf_trans {a b c : Occurrence} (hab : a.subtypeOf b) (hbc : b.subtypeOf c) :
    a.subtypeOf c := by
  rw [subtypeOf_iff] at *
  exact ⟨Nat.le_trans hbc.1 hab.1, boundLe_trans hab.2 hbc.2⟩

theorem subtypeOf_antisymm {a b : Occurrence} (hab : a.subtypeOf b) (hba : b.subtypeOf a) : a = b := by
  cases a <;> cases b <;> first | rfl | simp [subtypeOf, lower, upper?, boundLe] at hab hba

theorem admits_iff {o : Occurrence} {n : Nat} :
    o.admits n ↔ o.lower ≤ n ∧ boundLe (some n) o.upper? := by
  cases h : o.upper? <;> simp [admits, boundLe, h]

/-- A wider range admits what a narrower one does. -/
theorem admits_of_subtypeOf {a b : Occurrence} {n : Nat} (hab : a.subtypeOf b) (hn : a.admits n) :
    b.admits n := by
  rw [subtypeOf_iff] at hab
  rw [admits_iff] at hn ⊢
  exact ⟨Nat.le_trans hab.1 hn.1, boundLe_trans hn.2 hab.2⟩

theorem admits_zero_iff {o : Occurrence} : o.admits 0 ↔ o.lower = 0 := by
  cases o <;> simp [admits, lower, upper?]

theorem zeroMore_ne_zero : zeroMore ≠ zero := by decide

theorem not_subtypeOf_zero {o : Occurrence} (ho : o ≠ .zero) : o.subtypeOf .zero = false := by
  cases o <;> simp_all [subtypeOf, lower, upper?, boundLe]

/-- The range of a value that may also be absent. -/
theorem union_zeroOne_mono {a b : Occurrence} (hab : a.subtypeOf b) :
    (a.union .zeroOne).subtypeOf (b.union .zeroOne) := by
  revert hab
  cases a <;> cases b <;> decide

theorem lower_union_zeroOne (o : Occurrence) : (o.union .zeroOne).lower = 0 := by
  cases o <;> rfl

end Occurrence

namespace AtomicType

theorem subtypeOf_iff_mem {a b : AtomicType} : a.subtypeOf b ↔ b ∈ a.ancestors := by
  simp [subtypeOf]

/-- An ancestor is the type itself or an ancestor of its parent. -/
theorem mem_ancestors_iff {a b : AtomicType} :
    b ∈ a.ancestors ↔ b = a ∨ ∃ p, a.parent? = some p ∧ b ∈ p.ancestors := by
  rw [ancestors_eq]
  cases a.parent? <;> simp

theorem length_ancestors_parent {a p : AtomicType} (hp : a.parent? = some p) :
    a.ancestors.length = p.ancestors.length + 1 := by
  rw [ancestors_eq, hp]
  rfl

/-- The lineage of an ancestor is a part of the lineage, and a shorter one unless the ancestor is the
type itself. -/
theorem ancestors_of_mem {a b : AtomicType} (hb : b ∈ a.ancestors) :
    b.ancestors ⊆ a.ancestors ∧ (b = a ∨ b.ancestors.length < a.ancestors.length) := by
  induction hn : a.ancestors.length generalizing a with
  | zero =>
      rw [ancestors_eq] at hn
      cases hn
  | succ n ih =>
      rcases mem_ancestors_iff.1 hb with rfl | ⟨p, hp, hbp⟩
      · exact ⟨List.Subset.refl _, Or.inl rfl⟩
      · have hlen := length_ancestors_parent hp
        have hpn : p.ancestors.length = n := by omega
        obtain ⟨hsub, hlt⟩ := ih hbp hpn
        refine ⟨fun c hc => mem_ancestors_iff.2 (Or.inr ⟨p, hp, hsub hc⟩), Or.inr ?_⟩
        rcases hlt with rfl | hlt <;> omega

@[simp] theorem subtypeOf_refl (a : AtomicType) : a.subtypeOf a = true :=
  subtypeOf_iff_mem.2 (mem_ancestors_iff.2 (Or.inl rfl))

theorem subtypeOf_trans {a b c : AtomicType} (hab : a.subtypeOf b) (hbc : b.subtypeOf c) :
    a.subtypeOf c := by
  rw [subtypeOf_iff_mem] at *
  exact (ancestors_of_mem hab).1 hbc

theorem subtypeOf_antisymm {a b : AtomicType} (hab : a.subtypeOf b) (hba : b.subtypeOf a) : a = b := by
  rw [subtypeOf_iff_mem] at *
  rcases (ancestors_of_mem hab).2 with heq | hlt
  · exact heq.symm
  · rcases (ancestors_of_mem hba).2 with heq | hlt'
    · exact heq
    · omega

/-- A supertype of a type is the type itself or a supertype of its parent. -/
theorem eq_or_subtypeOf_of_parent? {t p u : AtomicType} (hp : t.parent? = some p) (h : t.subtypeOf u) :
    u = t ∨ p.subtypeOf u := by
  rcases mem_ancestors_iff.1 (subtypeOf_iff_mem.1 h) with rfl | ⟨q, hq, hu⟩
  · exact Or.inl rfl
  · rw [hp] at hq
    cases hq
    exact Or.inr (subtypeOf_iff_mem.2 hu)

/-- Nothing but the abstract root lies above a type derived from it. -/
theorem eq_of_primitive_subtypeOf {t u : AtomicType} (hp : t.parent? = some .anyAtomic)
    (hu : u.isAbstract = false) (h : t.subtypeOf u) : u = t := by
  rcases eq_or_subtypeOf_of_parent? hp h with heq | hany
  · exact heq
  · obtain rfl : u = .anyAtomic := List.mem_singleton.1 (subtypeOf_iff_mem.1 hany)
    cases hu

/-- What passes from a type to its parent passes to all its supertypes. -/
theorem of_subtypeOf {P : AtomicType → Prop} (hparent : ∀ a p, parent? a = some p → P a → P p)
    {a b : AtomicType} (hab : a.subtypeOf b) (ha : P a) : P b := by
  rcases mem_ancestors_iff.1 (subtypeOf_iff_mem.1 hab) with rfl | ⟨p, hp, hb⟩
  · exact ha
  · have hlt := length_ancestors_parent hp
    exact of_subtypeOf hparent (subtypeOf_iff_mem.2 hb) (hparent a p hp ha)
termination_by a.ancestors.length

end AtomicType

namespace NodeKind

theorem subtypeOf_iff {a b : NodeKind} : a.subtypeOf b ↔ b = any ∨ a = b := by
  simp [subtypeOf]

@[simp] theorem subtypeOf_refl (a : NodeKind) : a.subtypeOf a = true :=
  subtypeOf_iff.2 (Or.inr rfl)

theorem subtypeOf_trans {a b c : NodeKind} (hab : a.subtypeOf b) (hbc : b.subtypeOf c) :
    a.subtypeOf c := by
  rw [subtypeOf_iff] at *
  rcases hbc with hc | rfl
  · exact Or.inl hc
  · exact hab

theorem subtypeOf_antisymm {a b : NodeKind} (hab : a.subtypeOf b) (hba : b.subtypeOf a) : a = b := by
  rw [subtypeOf_iff] at *
  rcases hab with rfl | hab
  · rcases hba with rfl | hba
    · rfl
    · exact hba.symm
  · exact hab

theorem intersect?_self (a : NodeKind) : a.intersect? a = some a := by
  simp [intersect?]

end NodeKind

instance : ReflBEq QName where
  rfl {a} := beq_self_eq_true a.toExpandedName

instance : ReflBEq NameTest where
  rfl {a} := by
    cases a with
    | name a => exact beq_self_eq_true a
    | inNamespace _ | localName _ => exact decide_eq_true rfl

instance : ReflBEq KindTest where
  rfl {a} := by
    show (decide (a.kind = a.kind) && a.names == a.names) = true
    simp

theorem NameTest.isSome_intersect?_self (t : NameTest) : (t.intersect? t).isSome := by
  cases t with
  | name a =>
      have h : (NameTest.name a).accepts a = true := beq_self_eq_true a
      simp [NameTest.intersect?, h]
  | inNamespace _ | localName _ => simp [NameTest.intersect?]

theorem KindTest.isSome_intersect?_self (t : KindTest) : (t.intersect? t).isSome := by
  obtain ⟨names, hnames⟩ := Option.isSome_iff_exists.1 t.names.isSome_intersect?_self
  simp [KindTest.intersect?, NodeKind.intersect?_self, hnames]

@[simp] theorem testsOverlap_none (own : Option KindTest) : testsOverlap own none = true := rfl

@[simp] theorem testsOverlap_self (k : Option KindTest) : testsOverlap k k = true := by
  cases k with
  | none => rfl
  | some k => exact k.isSome_intersect?_self

/-- A type without test never satisfies one that has a test. -/
theorem testsOverlap_none_left {k : Option KindTest} (h : testsOverlap none k) : k = none := by
  cases k with
  | none => rfl
  | some k => simp [testsOverlap] at h

end SequenceTypes
