import SequenceTypes.Proofs.AbsentIntersection
import SequenceTypes.Proofs.Atomization
import SequenceTypes.Proofs.CastFailures

/-! The bindings that failures name. A promotion that fails for a number of items, or because no rule
converts an item, says which variable the value was meant for. The coercion of a function does not know of
the variable, so a function of another arity than the signature asks for is reported without it; no other
failure of these two kinds is. -/

namespace SequenceTypes

open Traversal

namespace Item

variable {i : Item} {ps : List SeqType} {r : SeqType}

theorem arity?_of_contentType (h : i.contentType.asFunction? = some (.of ps r)) :
    i.arity? = some ps.length := by
  cases i with
  | atomic _ | node _ => cases h
  | function _ _ _ | coerced _ _ | map _ | array _ =>
      cases h
      rfl

/-- The functions of a signature have its arity. -/
theorem arity?_of_hasInstance (h : (ItemType.function (.of ps r)).hasInstance i) :
    i.arity? = some ps.length := by
  rw [ItemType.function_hasInstance_eq, ItemType.subtypeOf_function_iff] at h
  obtain ⟨f, hf, hsub⟩ := h
  cases f with
  | any => cases FunctionType.any_subtypeOf_iff.1 hsub
  | of qs t =>
      rcases FunctionType.of_subtypeOf_iff.1 hsub with hany | ⟨_, _, heq, hparams, _⟩
      · cases hany
      · cases heq
        rw [arity?_of_contentType hf, SeqType.length_eq_of_subtypeOfAll hparams]

/-- What a function becomes by coercion. -/
def coercedTo (i : Item) (f : FunctionType) (optimize : Bool) : Item :=
  if optimize && (ItemType.function f).hasInstance i then i else .coerced i f

theorem coerceTo_of_arity (r : SeqType) (optimize : Bool) (h : i.arity? = some ps.length) :
    i.coerceTo (.of ps r) optimize = .ok (i.coercedTo (.of ps r) optimize) := by
  simp only [coerceTo, coercedTo, h, FunctionType.arity?, ne_eq, not_true_eq_false, if_false]
  split <;> rfl

theorem coerceTo_of_arity_ne {optimize : Bool} (h : i.arity? ≠ some ps.length) :
    i.coerceTo (.of ps r) optimize = .error (.notCoercible i (.of ps r)) := by
  unfold coerceTo
  split
  · rfl
  · next arity harity =>
      rw [harity, ne_eq, Option.some.injEq] at h
      simp only [FunctionType.arity?]
      rw [if_pos h]

theorem coerceTo_any {optimize : Bool} (h : i.isFunction) : i.coerceTo .any optimize = .ok i := by
  cases i with
  | atomic _ | node _ => cases h
  | _ => rfl

/-- Functions can be coerced unless the target is a signature of another arity. -/
theorem failure_of_coerceTo {f : FunctionType} {optimize : Bool} {c : Cause} (hi : i.isFunction)
    (h : i.coerceTo f optimize = .error c) :
    ∃ ps r, f = .of ps r ∧ i.arity? ≠ some ps.length ∧ c = .notCoercible i f := by
  cases f with
  | any =>
      rw [coerceTo_any hi] at h
      cases h
  | of ps r =>
      by_cases harity : i.arity? = some ps.length
      · rw [coerceTo_of_arity r optimize harity] at h
        cases h
      · rw [coerceTo_of_arity_ne harity] at h
        cases h
        exact ⟨ps, r, rfl, harity, rfl⟩

/-- Only functions and maps have no atomic values. -/
theorem failure_of_atomize {c : Cause} (h : i.atomize = .error c) : ∃ j, c = .notAtomizable j := by
  rw [atomize_eq_mapM_leaves] at h
  obtain ⟨_, j, _, _, _, hj⟩ := first_failure_of_mapM h
  cases j with
  | atomic _ | node _ => cases hj
  | _ =>
      cases hj
      exact ⟨_, rfl⟩

end Item

theorem Cause.kind_failure (limit : Nat) (c : Cause) : (c.failure limit).kind = c.kind := by
  cases c with
  | wrongCount p _ _ _ | mismatch p _ _ _ | notPromotable p _ _ _ => cases p <;> rfl
  | _ => rfl

theorem Cause.kind_of_isCastFailure {c : Cause} (hc : c.isCastFailure) :
    c.kind ≠ .cardinalityViolation ∧ c.kind ≠ .promotionImpossible := by
  cases c <;> simp_all [isCastFailure, kind]

namespace SeqType

variable {ctx : StaticContext} {opts : PromoteOptions} {s : SeqType} {binding? : Option QName}
  {ps : List SeqType} {r : SeqType} {i : Item} {v : Sequence} {c : Cause}

theorem promoteOne_of_arity_ne (hs : s.itemType = .function (.of ps r))
    (hi : i.arity? ≠ some ps.length) :
    s.promoteOne ctx opts binding? i =
      .error (if i.isFunction then .notCoercible i (.of ps r) else s.notPromotable binding? i) := by
  have hitem : ¬s.hasItem i := by
    intro h
    rw [hasItem, hs, Bool.and_eq_true] at h
    exact hi (Item.arity?_of_hasInstance h.1)
  rw [promoteOne_of_not_hasItem hitem, promoteItem]
  simp only [hs]
  split
  · rw [Item.coerceTo_of_arity_ne hi]
    rfl
  · rfl

/-- To a signature, the functions of its arity are promoted and nothing else. -/
theorem isOk_promoteOne_iff (hs : s.itemType = .function (.of ps r)) :
    (s.promoteOne ctx opts binding? i).isOk ↔ i.arity? = some ps.length := by
  constructor
  · intro hok
    refine Decidable.byContradiction fun hi => ?_
    rw [promoteOne_of_arity_ne hs hi] at hok
    cases hok
  · intro hi
    rw [promoteOne]
    split
    · rfl
    · simp only [promoteItem, hs, Item.isFunction_of_arity? hi, if_true,
        Item.coerceTo_of_arity r opts.optimize hi]
      rfl

/-- A promotion fails with the first item that fails, or because of a number of items. -/
theorem failure_of_promote (h : s.promote ctx opts binding? v = .error c) :
    s.occurrence.admits v.length ∧ v.mapM (s.promoteOne ctx opts binding?) = .error c ∨
      c = .wrongCount (.ofBinding? binding?) v.staticType s v ∧
        (s.occurrence.admits v.length → (v.mapM (s.promoteOne ctx opts binding?)).isOk) := by
  rw [promote_eq_mapM] at h
  split at h
  · next hadmits =>
      rcases bind_eq_error_iff.1 h with hmap | ⟨parts, hparts, hcount⟩
      · exact Or.inl ⟨hadmits, hmap⟩
      · split at hcount
        · cases hcount
        · cases hcount
          exact Or.inr ⟨rfl, fun _ => isOk_iff_exists.2 ⟨parts, hparts⟩⟩
  · next hadmits =>
      cases h
      exact Or.inr ⟨rfl, fun hlength => absurd hlength hadmits⟩

theorem promote_of_failure (hadmits : s.occurrence.admits v.length)
    (h : v.mapM (s.promoteOne ctx opts binding?) = .error c) :
    s.promote ctx opts binding? v = .error c := by
  rw [promote_eq_mapM, if_pos hadmits, h]
  rfl

theorem promote_of_parts {parts : List Sequence} (hadmits : s.occurrence.admits v.length)
    (h : v.mapM (s.promoteOne ctx opts binding?) = .ok parts) :
    s.promote ctx opts binding? v =
      if s.occurrence.admits parts.flatten.length then .ok parts.flatten
      else .error (.wrongCount (.ofBinding? binding?) v.staticType s v) := by
  rw [promote_eq_mapM, if_pos hadmits, h]
  rfl

theorem failure_of_promoteAtom {target : AtomicType} {a : AtomicValue}
    (h : s.promoteAtom ctx binding? target i a = .error c) :
    c = s.notPromotable binding? i ∨
      c.kind ≠ .cardinalityViolation ∧ c.kind ≠ .promotionImpossible := by
  unfold promoteAtom at h
  split at h
  · cases h
  · split at h
    · split at h
      · cases h
        exact Or.inr (by simp [Cause.kind])
      · exact Or.inr (Cause.kind_of_isCastFailure (Cast.failsAsCast_cast a c h))
    · split at h
      · cases h
      · cases h
        exact Or.inl rfl

/-- Of the failures of an item, those of the two kinds that concern a binding are that no rule applies to
the item, or that it is a function of another arity than the signature asks for. -/
theorem failure_of_promoteOne (h : s.promoteOne ctx opts binding? i = .error c) :
    c = s.notPromotable binding? i ∨
      (∃ ps r, s.itemType = .function (.of ps r) ∧ i.isFunction ∧ i.arity? ≠ some ps.length ∧
        c = .notCoercible i (.of ps r)) ∨
      c.kind ≠ .cardinalityViolation ∧ c.kind ≠ .promotionImpossible := by
  unfold promoteOne at h
  split at h
  · cases h
  · unfold promoteItem at h
    split at h
    · rcases bind_eq_error_iff.1 h with hatoms | ⟨atoms, _, hrest⟩
      · obtain ⟨j, rfl⟩ := Item.failure_of_atomize hatoms
        exact Or.inr (Or.inr (by simp [Cause.kind]))
      · rcases bind_eq_error_iff.1 hrest with hparts | ⟨_, _, hpure⟩
        · obtain ⟨_, a, _, _, _, ha⟩ := first_failure_of_mapM hparts
          exact (failure_of_promoteAtom ha).imp_right Or.inr
        · cases hpure
    · next f hf =>
        split at h
        · next hi =>
            obtain ⟨ps, r, rfl, harity, rfl⟩ := Item.failure_of_coerceTo hi (map_eq_error_iff.1 h)
            exact Or.inr (Or.inl ⟨ps, r, hf, hi, harity, rfl⟩)
        · cases h
          exact Or.inl rfl
    · cases h
      exact Or.inl rfl

/-- The causes of the failures that concern a binding. -/
theorem cause_of_promote (h : s.promote ctx opts binding? v = .error c)
    (hkind : c.kind = .cardinalityViolation ∨ c.kind = .promotionImpossible) :
    c = .wrongCount (.ofBinding? binding?) v.staticType s v ∨ (∃ i, c = s.notPromotable binding? i) ∨
      ∃ i f, c = .notCoercible i f := by
  rcases failure_of_promote h with ⟨_, hmap⟩ | ⟨hcount, _⟩
  · obtain ⟨_, i, _, _, _, hi⟩ := first_failure_of_mapM hmap
    rcases failure_of_promoteOne hi with hrule | ⟨ps, r, _, _, _, hcoerce⟩ | hother
    · exact Or.inr (Or.inl ⟨i, hrule⟩)
    · exact Or.inr (Or.inr ⟨i, .of ps r, hcoerce⟩)
    · rcases hkind with hkind | hkind
      · exact absurd hkind hother.1
      · exact absurd hkind hother.2
  · exact Or.inl hcount

/-! ### Functions that cannot be coerced -/

/-- Whether a promotion ends at a function that cannot be coerced: the target is a signature, and the
first item that is no function of its arity is a function of another one. -/
def coercionFails (s : SeqType) (v : Sequence) : Bool :=
  match s.itemType with
  | .function (.of ps _) =>
    s.occurrence.admits v.length && (v.find? (·.arity? != some ps.length)).any Item.isFunction
  | _ => false

theorem coercionFails_iff :
    s.coercionFails v ↔ ∃ i f, s.promote ctx opts binding? v = .error (.notCoercible i f) := by
  constructor
  · intro h
    unfold coercionFails at h
    split at h
    · next ps r hs =>
        rw [Bool.and_eq_true, Option.any_eq_true] at h
        obtain ⟨hadmits, i, hfind, hi⟩ := h
        obtain ⟨harity, before, after, rfl, hbefore⟩ := List.find?_eq_some_iff_append.1 hfind
        have hfirst : s.promoteOne ctx opts binding? i = .error (.notCoercible i (.of ps r)) := by
          rw [promoteOne_of_arity_ne hs (bne_iff_ne.1 harity), if_pos hi]
        have hok : ∀ j ∈ before, (s.promoteOne ctx opts binding? j).isOk := fun j hj =>
          (isOk_promoteOne_iff hs).2 (by simpa using hbefore j hj)
        exact ⟨i, .of ps r, promote_of_failure hadmits (mapM_of_first_failure hok hfirst)⟩
    · cases h
  · rintro ⟨i, f, h⟩
    rcases failure_of_promote h with ⟨hadmits, hmap⟩ | ⟨hcount, _⟩
    · obtain ⟨before, j, after, rfl, hok, hj⟩ := first_failure_of_mapM hmap
      rcases failure_of_promoteOne hj with hrule | ⟨ps, r, hs, hfunction, harity, _⟩ | hkind
      · cases hrule
      · have hfind : (before ++ j :: after).find? (·.arity? != some ps.length) = some j :=
          List.find?_eq_some_iff_append.2 ⟨bne_iff_ne.2 harity, before, after, rfl, fun k hk => by
            simpa using (isOk_promoteOne_iff hs).1 (hok k hk)⟩
        simp only [coercionFails, hs, hfind, Option.any_some, hfunction, Bool.and_true]
        exact hadmits
      · exact absurd rfl hkind.2
    · cases hcount

/-- A promotion for a binding that fails for a number of items, or because an item cannot be promoted,
names the binding unless it ends at a function that cannot be coerced. There it does fail, and without the
binding. -/
theorem promote_failure_context_exact (ctx : StaticContext) (opts : PromoteOptions) (s : SeqType)
    (name : QName) (v : Sequence) :
    (∀ c, s.promote ctx opts (some name) v = .error c →
      (ctx.failure c).kind = .cardinalityViolation ∨ (ctx.failure c).kind = .promotionImpossible →
        ((ctx.failure c).context = some ("$" ++ name.text) ↔ ¬s.coercionFails v)) ∧
    (s.coercionFails v → ∃ c, s.promote ctx opts (some name) v = .error c ∧
      (ctx.failure c).kind = .promotionImpossible ∧ (ctx.failure c).context = none) := by
  constructor
  · intro c h hkind
    have hnamed : (∀ i f, c ≠ .notCoercible i f) → ¬s.coercionFails v := by
      intro hc hfails
      obtain ⟨i, f, hi⟩ := coercionFails_iff.1 hfails
      exact hc i f (Except.error.inj (h.symm.trans hi))
    rw [StaticContext.failure, Cause.kind_failure] at hkind
    rcases cause_of_promote h hkind with rfl | ⟨i, rfl⟩ | ⟨i, f, rfl⟩
    · exact iff_of_true rfl (hnamed fun _ _ hc => nomatch hc)
    · exact iff_of_true rfl (hnamed fun _ _ hc => nomatch hc)
    · refine iff_of_false (fun hcontext => ?_) (not_not_intro (coercionFails_iff.2 ⟨i, f, h⟩))
      cases hcontext
  · intro hfails
    obtain ⟨i, f, hi⟩ := coercionFails_iff.1 hfails
    exact ⟨.notCoercible i f, hi, rfl, rfl⟩

/-- A comment has no integer as its value, and the failure names the variable. After a function of one
parameter, one of two is not coerced, and the failure does not name it. -/
theorem promote_names_variable_for_comment :
    (∃ c, (of (.atomic .integer) .one none (by decide)).promote .initial .standard (some (.ofLocal "n"))
        [.node (.comment "1")] = .error c ∧
      (StaticContext.initial.failure c).kind = .promotionImpossible ∧
      (StaticContext.initial.failure c).context = some "$n") ∧
    ∃ c, (of (.function (.of [.empty] .empty)) .oneMore none (by decide)).promote .initial .optimized
        (some (.ofLocal "n")) [.function none [.empty] .empty, .function none [.empty, .empty] .empty] =
          .error c ∧
      (StaticContext.initial.failure c).kind = .promotionImpossible ∧
      (StaticContext.initial.failure c).context = none := by
  have hcomment : (of (.atomic .integer) .one none (by decide)).promote .initial .standard
      (some (.ofLocal "n")) [.node (.comment "1")] =
        .error (notPromotable (of (.atomic .integer) .one none (by decide)) (some (.ofLocal "n"))
          (.node (.comment "1"))) := by
    with_unfolding_all rfl
  refine ⟨⟨_, hcomment, rfl, ?_⟩, (promote_failure_context_exact _ _ _ _ _).2 (by decide)⟩
  exact ((promote_failure_context_exact _ _ _ _ _).1 _ hcomment (Or.inr rfl)).2 (by decide)

/-- A function of two parameters does not become one of a single parameter, and the failure does not name
the variable that was to hold it. -/
theorem promote_leaves_variable_out :
    ∃ c, (of (.function (.of [(ItemType.atomic .integer).single] (ItemType.atomic .integer).single))
          .one none (by decide)).promote .initial .standard (some (.ofLocal "x"))
        [.function none [(ItemType.atomic .integer).single, (ItemType.atomic .integer).single]
          (ItemType.atomic .integer).single] = .error c ∧
      (StaticContext.initial.failure c).kind = .promotionImpossible ∧
      (StaticContext.initial.failure c).context ≠ some "$x" := by
  refine ⟨.notCoercible (.function none [(ItemType.atomic .integer).single,
      (ItemType.atomic .integer).single] (ItemType.atomic .integer).single)
    (.of [(ItemType.atomic .integer).single] (ItemType.atomic .integer).single), ?_, rfl, ?_⟩
  · with_unfolding_all rfl
  · intro h
    cases h

end SeqType
end SequenceTypes
