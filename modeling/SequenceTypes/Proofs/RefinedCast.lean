import SequenceTypes.Proofs.CastSoundness
import SequenceTypes.Proofs.UnionBounds

/-! Casts to types with a refining test. A conversion yields atomic values, which no test accepts, so that
only items of the very item type get through; and these are kept without a look at the test. Such a cast
converts nothing: it succeeds exactly if all items have the item type for their runtime type, and what it
hands back is an instance exactly if the test accepts all of it. -/

namespace SequenceTypes

open Traversal

theorem Cast.ne_nil_of_toTokens {ctx : StaticContext} {target : AtomicType} {a : AtomicValue}
    {bs : List AtomicValue} (h : toTokens ctx target a = .ok bs) : bs ≠ [] := by
  rw [toTokens] at h
  split at h
  · split at h
    · cases h
    · next hwords =>
        have hlength := (getElem?_of_mapM h).1
        rintro rfl
        exact hwords (List.length_eq_zero_iff.1 hlength.symm)
  · cases h

/-- A cast yields at least one value. -/
theorem AtomicType.ne_nil_of_cast {ctx : StaticContext} {target : AtomicType} {a : AtomicValue}
    {bs : List AtomicValue} (h : target.cast ctx a = .ok bs) : bs ≠ [] := by
  by_cases hlist : target = .nmtokens
  · subst hlist
    rw [cast] at h
    split at h
    · cases h
      exact List.cons_ne_nil a []
    · rw [if_neg (by decide), if_pos (by decide)] at h
      exact Cast.ne_nil_of_toTokens h
  · obtain ⟨b, rfl, _⟩ := exact_type_of_cast hlist h
    exact List.cons_ne_nil b []

/-- An item is converted to atomic values, of which there is at least one. -/
theorem ItemType.exists_atomic_of_cast {ctx : StaticContext} {t : ItemType} {i : Item} {w : Sequence}
    (h : t.cast ctx i = .ok w) : ∃ b, Item.atomic b ∈ w := by
  unfold cast at h
  split at h
  · obtain ⟨atoms, _, hatoms⟩ := bind_eq_ok_iff.1 h
    split at hatoms
    · obtain ⟨bs, hbs, rfl⟩ := map_eq_ok_iff.1 hatoms
      obtain ⟨b, rest, rfl⟩ := List.exists_cons_of_ne_nil (AtomicType.ne_nil_of_cast hbs)
      exact ⟨b, List.mem_cons_self⟩
    · cases hatoms
  · cases h

namespace SeqType

variable {ctx : StaticContext} {s : SeqType} {k : KindTest} {i : Item} {v : Sequence}

theorem castItem_of_runtimeType (hi : i.runtimeType == s.itemType) : s.castItem ctx i = .ok [i] := by
  rw [castItem, if_pos hi]

/-- With a test, no item is converted: the test rejects the values of any conversion. -/
theorem castItem_of_test_fails (htest : s.test? = some k) (hi : ¬i.runtimeType == s.itemType) :
    ∃ c, s.castItem ctx i = .error c := by
  rw [castItem, if_neg hi]
  cases hresult : s.itemType.cast ctx i with
  | error c => exact ⟨c, rfl⟩
  | ok result =>
      obtain ⟨b, hb⟩ := ItemType.exists_atomic_of_cast hresult
      have hrejected : ¬result.all fun r => s.test?.all (·.acceptsItem r) := by
        intro hall
        have haccepted := List.all_eq_true.1 hall _ hb
        rw [htest] at haccepted
        cases haccepted
      exact ⟨_, if_neg hrejected⟩

theorem castItem_of_test_isOk_iff (htest : s.test? = some k) :
    (s.castItem ctx i).isOk ↔ i.runtimeType == s.itemType := by
  by_cases hi : i.runtimeType == s.itemType
  · rw [castItem_of_runtimeType hi]
    exact iff_of_true rfl hi
  · obtain ⟨c, hc⟩ : ∃ c, s.castItem ctx i = .error c := castItem_of_test_fails htest hi
    rw [hc]
    exact iff_of_false (by simp [Except.isOk, Except.toBool]) hi

/-- An item of the item type that the test accepts matches. -/
theorem hasItem_iff_of_runtimeType (htest : s.test? = some k) (hi : i.runtimeType == s.itemType) :
    s.hasItem i ↔ k.acceptsItem i := by
  rw [hasItem, htest, Bool.and_eq_true]
  refine ⟨fun h => h.2, fun haccepts => ⟨?_, haccepts⟩⟩
  cases i with
  | node n =>
      rw [ItemType.hasInstance_node]
      exact (ItemType.subtypeOf_of_beq hi).1
  | _ => cases haccepts

theorem cast_of_test_eq_ok_iff (htest : s.test? = some k) {r : Sequence} :
    s.cast ctx v = .ok r ↔
      s.occurrence.admits v.length ∧ (∀ i ∈ v, i.runtimeType == s.itemType) ∧ r = v := by
  constructor
  · intro h
    have hok : (s.cast ctx v).isOk := by
      rw [h]
      rfl
    obtain ⟨hadmits, hitems⟩ := cast_isOk_iff.1 hok
    have htypes : ∀ i ∈ v, i.runtimeType == s.itemType :=
      fun i hi => (castItem_of_test_isOk_iff htest).1 (hitems i hi)
    have hself : s.cast ctx v = .ok v :=
      cast_of_fixed hadmits fun i hi => castItem_of_runtimeType (htypes i hi)
    exact ⟨hadmits, htypes, Except.ok.inj (h.symm.trans hself)⟩
  · rintro ⟨hadmits, htypes, rfl⟩
    exact cast_of_fixed hadmits fun i hi => castItem_of_runtimeType (htypes i hi)

/-- A cast to a type with a test succeeds exactly if the length is admitted and the items have the item
type already, and then it changes nothing; its result is an instance exactly if the test accepts every
item of it. -/
theorem cast_refined_exact (htest : s.test? = some k) (ctx : StaticContext) (v r : Sequence) :
    (s.cast ctx v = .ok r ↔
      s.occurrence.admits v.length ∧ (∀ i ∈ v, i.runtimeType == s.itemType) ∧ r = v) ∧
    (s.cast ctx v = .ok r → (s.hasInstance r ↔ ∀ i ∈ r, k.acceptsItem i)) := by
  refine ⟨cast_of_test_eq_ok_iff htest, fun h => ?_⟩
  obtain ⟨hadmits, htypes, rfl⟩ := (cast_of_test_eq_ok_iff htest).1 h
  rw [hasInstance_iff, and_iff_right hadmits]
  exact forall₂_congr fun i hi => hasItem_iff_of_runtimeType htest (htypes i hi)

/-- Elements of the name asked for are kept, and are an instance; text is not made into an element. -/
theorem cast_to_named_elements :
    let named : KindTest := ⟨.element, .name (.ofLocal "a")⟩
    let elements : SeqType := of (.node .element) .oneMore (some named) (by decide)
    let v : Sequence := [.node (.element (.ofLocal "a") "x"), .node (.element (.ofLocal "a") "y")]
    let w : Sequence := [.atomic (.string .string "x")]
    elements.cast .initial v = .ok v ∧ elements.hasInstance v ∧
      ∀ r, elements.cast .initial w ≠ .ok r := by
  intro named elements v w
  obtain ⟨hcast, hinstance⟩ := cast_refined_exact (s := elements) (k := named) rfl .initial v v
  have hv : elements.cast .initial v = .ok v := hcast.2 ⟨rfl, by decide +kernel, rfl⟩
  refine ⟨hv, (hinstance hv).2 (by decide +kernel), fun r hr => ?_⟩
  obtain ⟨_, htypes, _⟩ := (cast_refined_exact (s := elements) (k := named) rfl .initial w r).1.1 hr
  exact absurd (htypes _ List.mem_cons_self) (by decide +kernel)

/-- An element of another name than the one asked for is kept all the same. -/
theorem cast_keeps_rejected_element :
    let named : KindTest := ⟨.element, .name (.ofLocal "a")⟩
    let element : SeqType := of (.node .element) .one (some named) (by decide)
    let v : Sequence := [.node (.element (.ofLocal "b") "x")]
    element.cast .initial v = .ok v ∧ ¬element.hasInstance v ∧ ¬∀ i ∈ v, named.acceptsItem i := by
  intro named element v
  have hcast : element.cast .initial v = .ok v := by with_unfolding_all rfl
  exact ⟨hcast, by decide +kernel, by decide +kernel⟩

end SeqType
end SequenceTypes
