import SequenceTypes.Proofs.LookupFunctions
import SequenceTypes.Proofs.PromotionFailures

/-! The option to leave functions as they are. It is looked at where a function is coerced, and a function
that matches the item type is not coerced to begin with: a promotion keeps it. Only a refining test stands
between the two checks. A test accepts nodes only, so that with one every function is coerced, and there
the option shows. -/

namespace SequenceTypes

open Traversal

/-- The option matters only for items that match a signature. -/
theorem Item.coerceTo_congr {i : Item} {f : FunctionType}
    (h : f = .any ∨ ¬(ItemType.function f).hasInstance i) (optimize optimize' : Bool) :
    i.coerceTo f optimize = i.coerceTo f optimize' := by
  rcases h with rfl | hi
  · rfl
  · simp only [coerceTo, hi, Bool.and_false]

/-- No function is the same seen as another one. -/
theorem Item.coerced_ne_self (i : Item) (f : FunctionType) : Item.coerced i f ≠ i := by
  intro h
  have hsize := congrArg sizeOf h
  simp only [Item.coerced.sizeOf_spec] at hsize
  omega

theorem Item.coercedTo_eq_iff (i : Item) (f : FunctionType) :
    i.coercedTo f true = i.coercedTo f false ↔ ¬(ItemType.function f).hasInstance i := by
  by_cases hi : (ItemType.function f).hasInstance i
  · simp [coercedTo, hi, (coerced_ne_self i f).symm]
  · simp [coercedTo, hi]

namespace SeqType

variable {ctx : StaticContext} {opts opts' : PromoteOptions} {s : SeqType} {binding? : Option QName}
  {ps : List SeqType} {r : SeqType} {v : Sequence}

/-- A promotion depends on what becomes of the items, and on nothing else. -/
theorem promote_congr
    (h : ∀ i ∈ v, s.promoteOne ctx opts binding? i = s.promoteOne ctx opts' binding? i) :
    s.promote ctx opts binding? v = s.promote ctx opts' binding? v := by
  rw [promote_eq_mapM, promote_eq_mapM, mapM_congr h]

theorem promoteOne_congr {i : Item}
    (h : ∀ f, s.itemType = .function f → f = .any ∨ s.hasItem i ∨ ¬s.itemType.hasInstance i) :
    s.promoteOne ctx opts binding? i = s.promoteOne ctx opts' binding? i := by
  unfold promoteOne
  split
  · rfl
  · next hitem =>
      unfold promoteItem
      split
      · rfl
      · next f hf =>
          have hguard := h f hf
          rw [hf] at hguard
          rw [Item.coerceTo_congr (hguard.imp_right fun h => h.resolve_left hitem)]
      · rfl

theorem mapM_failure_congr (hs : s.itemType = .function (.of ps r)) {c : Cause}
    (h : v.mapM (s.promoteOne ctx opts binding?) = .error c) :
    v.mapM (s.promoteOne ctx opts' binding?) = .error c := by
  obtain ⟨before, i, after, rfl, hbefore, hi⟩ := first_failure_of_mapM h
  have harity : i.arity? ≠ some ps.length := by
    intro harity
    have hok : (s.promoteOne ctx opts binding? i).isOk := (isOk_promoteOne_iff hs).2 harity
    rw [hi] at hok
    cases hok
  rw [promoteOne_of_arity_ne hs harity] at hi
  refine mapM_of_first_failure (fun j hj => ?_) ?_
  · exact (isOk_promoteOne_iff hs).2 ((isOk_promoteOne_iff hs).1 (hbefore j hj))
  · rw [promoteOne_of_arity_ne hs harity, hi]

/-- With a test no function is kept, so all are coerced. -/
theorem promoteOne_of_test (hs : s.itemType = .function (.of ps r)) (htest : s.test?.isSome) {i : Item}
    (harity : i.arity? = some ps.length) :
    s.promoteOne ctx opts binding? i = .ok [i.coercedTo (.of ps r) opts.optimize] := by
  have hitem : ¬s.hasItem i := by
    intro h
    have hnone := test?_eq_none_of_hasItem (by rintro n rfl; cases harity) h
    rw [hnone] at htest
    cases htest
  rw [promoteOne_of_not_hasItem hitem, promoteItem]
  simp only [hs, Item.isFunction_of_arity? harity, if_true, Item.coerceTo_of_arity r opts.optimize harity]
  rfl

theorem promote_of_test (hs : s.itemType = .function (.of ps r)) (htest : s.test?.isSome)
    (hadmits : s.occurrence.admits v.length) (harity : ∀ i ∈ v, i.arity? = some ps.length) :
    s.promote ctx opts binding? v = .ok (v.map (·.coercedTo (.of ps r) opts.optimize)) := by
  have hparts : v.mapM (s.promoteOne ctx opts binding?) =
      .ok (v.map fun i => [i.coercedTo (.of ps r) opts.optimize]) :=
    mapM_eq_ok_of_forall fun i hi => promoteOne_of_test hs htest (harity i hi)
  have hjoin : (v.map fun i => [i.coercedTo (.of ps r) opts.optimize]).flatten =
      v.map (·.coercedTo (.of ps r) opts.optimize) :=
    List.map_eq_flatMap.symm
  rw [promote_of_parts hadmits hparts, hjoin, List.length_map, if_pos hadmits]

/-- A promotion to a signature under a test succeeds for functions of its arity. -/
theorem isOk_promote_iff (hs : s.itemType = .function (.of ps r)) (htest : s.test?.isSome) :
    (s.promote ctx opts binding? v).isOk ↔
      s.occurrence.admits v.length ∧ ∀ i ∈ v, i.arity? = some ps.length := by
  constructor
  · intro h
    obtain ⟨w, hw⟩ := isOk_iff_exists.1 h
    have hadmits : s.occurrence.admits v.length := by
      refine Decidable.byContradiction fun hnot => ?_
      rw [promote_eq_mapM, if_neg hnot] at hw
      cases hw
    obtain ⟨_, parts, hparts, _⟩ := parts_of_promote hw
    have hall := isOk_mapM_iff.1 (isOk_iff_exists.2 ⟨parts, hparts⟩)
    exact ⟨hadmits, fun i hi => (isOk_promoteOne_iff hs).1 (hall i hi)⟩
  · rintro ⟨hadmits, harity⟩
    rw [promote_of_test hs htest hadmits harity]
    rfl

/-- A promotion to a signature that fails, fails alike with any options. -/
theorem promote_failure_congr (hs : s.itemType = .function (.of ps r)) (htest : s.test?.isSome)
    (h : ¬(s.promote ctx opts binding? v).isOk) :
    s.promote ctx opts' binding? v = s.promote ctx opts binding? v := by
  by_cases hadmits : s.occurrence.admits v.length
  · cases hmap : v.mapM (s.promoteOne ctx opts binding?) with
    | error c =>
        rw [promote_of_failure hadmits hmap, promote_of_failure hadmits (mapM_failure_congr hs hmap)]
    | ok parts =>
        have hall := isOk_mapM_iff.1 (isOk_iff_exists.2 ⟨parts, hmap⟩)
        exact absurd ((isOk_promote_iff hs htest).2
          ⟨hadmits, fun i hi => (isOk_promoteOne_iff hs).1 (hall i hi)⟩) h
  · rw [promote_eq_mapM, promote_eq_mapM, if_neg hadmits, if_neg hadmits]

theorem promote_optimize_of_test (hs : s.itemType = .function (.of ps r)) (htest : s.test?.isSome) :
    s.promote ctx .optimized binding? v = s.promote ctx .standard binding? v ↔
      ((s.promote ctx .standard binding? v).isOk → ∀ i ∈ v, ¬s.itemType.hasInstance i) := by
  by_cases hok : (s.promote ctx .standard binding? v).isOk
  · obtain ⟨hadmits, harity⟩ := (isOk_promote_iff hs htest).1 hok
    rw [imp_iff_right hok, promote_of_test hs htest hadmits harity,
      promote_of_test hs htest hadmits harity, Except.ok.injEq, List.map_inj_left, hs]
    exact forall₂_congr fun i _ => Item.coercedTo_eq_iff i (.of ps r)
  · exact iff_of_true (promote_failure_congr hs htest hok) fun h => absurd h hok

theorem promote_optimize_of_no_test (htest : s.test? = none) :
    s.promote ctx opts binding? v = s.promote ctx opts' binding? v := by
  refine promote_congr fun i _ => promoteOne_congr fun f _ => Or.inr ?_
  by_cases hi : s.itemType.hasInstance i
  · exact Or.inl (hasItem_of_itemType htest hi)
  · exact Or.inr hi

/-- The option to leave functions as they are does not change the outcome of a promotion to a type without
test. In general it shows exactly if a promotion to a signature with a test succeeds and one of the
functions matches the signature. -/
theorem promote_optimize_exact (ctx : StaticContext) (s : SeqType) (binding? : Option QName)
    (v : Sequence) :
    (s.test? = none →
      s.promote ctx .optimized binding? v = s.promote ctx .standard binding? v) ∧
    (s.promote ctx .optimized binding? v ≠ s.promote ctx .standard binding? v ↔
      s.test?.isSome ∧ s.itemType.hasSignature ∧ (s.promote ctx .standard binding? v).isOk ∧
        ∃ i ∈ v, s.itemType.hasInstance i) := by
  refine ⟨promote_optimize_of_no_test, ?_⟩
  by_cases htest : s.test?.isSome
  · by_cases hsignature : s.itemType.hasSignature
    · obtain ⟨ps, r, hs⟩ := ItemType.hasSignature_iff.1 hsignature
      rw [ne_eq, promote_optimize_of_test hs htest]
      simp [htest, hsignature]
    · have hsame : s.promote ctx .optimized binding? v = s.promote ctx .standard binding? v := by
        refine promote_congr fun i _ => promoteOne_congr fun f hf => Or.inl ?_
        cases f with
        | any => rfl
        | of ps r => exact absurd (ItemType.hasSignature_iff.2 ⟨ps, r, hf⟩) hsignature
      exact iff_of_false (fun h => h hsame) fun h => hsignature h.2.1
  · have hnone : s.test? = none := Option.not_isSome_iff_eq_none.1 htest
    exact iff_of_false (fun h => h (promote_optimize_of_no_test hnone)) fun h => htest h.1

/-- Of two functions, the one that matches is kept and the other one is coerced, with and without the
option. -/
theorem promote_functions_with_either_option :
    (of (.function (.of [.empty] .empty)) .oneMore none (by decide)).promote .initial .optimized none
        [.function none [.empty] .empty, .map []] =
      .ok [.function none [.empty] .empty, .coerced (.map []) (.of [.empty] .empty)] ∧
    (of (.function (.of [.empty] .empty)) .oneMore none (by decide)).promote .initial .standard none
        [.function none [.empty] .empty, .map []] =
      .ok [.function none [.empty] .empty, .coerced (.map []) (.of [.empty] .empty)] := by
  have hstandard : (of (.function (.of [.empty] .empty)) .oneMore none (by decide)).promote .initial
      .standard none [.function none [.empty] .empty, .map []] =
      .ok [.function none [.empty] .empty, .coerced (.map []) (.of [.empty] .empty)] := by
    with_unfolding_all rfl
  exact ⟨((promote_optimize_exact _ _ _ _).1 rfl).trans hstandard, hstandard⟩

end SeqType
end SequenceTypes
