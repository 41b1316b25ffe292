import SequenceTypes.Promotion
import SequenceTypes.Proofs.StaticCover

/-! The type assertion. `treat` accepts every instance, and it names the right kind of failure. It looks at
the static type of the sequence first, and that is where it also accepts sequences that are no instances:
the static type may be a subtype though the type of a function item is not, and the type of all maps says
nothing about keys outside of `xs:anyAtomicType`. These two are the only ways. -/

namespace SequenceTypes

/-- Whether an item may fail to match an item type although the static type of a sequence that holds it
passes: a function whose own type is no subtype, or a map with a key that no map type of all keys
covers. -/
def ItemType.overlooks : ItemType → Item → Bool
  | t, .function _ params result => !(ItemType.function (.of params result)).subtypeOf t
  | t, .coerced _ type => !(ItemType.function type).subtypeOf t
  | .map _ _, .map entries => entries.any fun e => !e.1.type.subtypeOf .anyAtomic
  | _, _ => false

theorem SeqType.hasInstance_anyItems (v : Sequence) : anyItems.hasInstance v := by
  refine hasInstance_iff.2 ⟨?_, fun i _ => ?_⟩
  · simp [anyItems, occurrence, Occurrence.admits, Occurrence.lower, Occurrence.upper?]
  · simp [anyItems, hasItem, itemType, test?]

namespace ItemType

/-- Where the type of all maps passes, a map is an instance unless a key is overlooked. -/
theorem hasInstance_map_of_anyMap {t : ItemType} {entries : List (AtomicValue × List Item)}
    (ht : anyMap.subtypeOf t) (hkeys : ¬t.overlooks (.map entries)) : t.hasInstance (.map entries) := by
  rcases map_subtypeOf_iff.1 ht with rfl | ⟨k, v, rfl, _⟩ | ⟨f, rfl, hf⟩
  · exact hasInstance_item _
  · obtain ⟨rfl, rfl⟩ := anyMap_subtypeOf_map_iff.1 ht
    simp only [overlooks, List.any_eq_true, not_exists, not_and, Bool.not_eq_true,
      Bool.not_eq_false'] at hkeys
    exact map_hasInstance_iff.2
      ⟨entries, rfl, fun e he => ⟨hkeys e he, SeqType.hasInstance_anyItems e.2⟩⟩
  · rw [function_hasInstance_eq]
    -- the keys do not enter the lookup function, so that none of them matters here
    have hlookup := FunctionType.subtypeOf_trans (Or.inr (Or.inl rfl))
      (FunctionType.ofMap_mono (coverSequences (entries.map (·.2))).subtypeOf_anyItems) hf
    exact map_subtypeOf_iff.2 (Or.inr (Or.inr ⟨f, rfl, hlookup⟩))

/-- Where the type of all arrays passes, an array is an instance. -/
theorem hasInstance_array_of_anyArray {t : ItemType} {members : List (List Item)}
    (ht : anyArray.subtypeOf t) : t.hasInstance (.array members) := by
  rcases array_subtypeOf_iff.1 ht with rfl | ⟨m, rfl, _⟩ | ⟨f, rfl, hf⟩
  · exact hasInstance_item _
  · obtain rfl := anyArray_subtypeOf_array_iff.1 ht
    exact array_hasInstance_iff.2 ⟨members, rfl, fun v _ => SeqType.hasInstance_anyItems v⟩
  · rw [function_hasInstance_eq]
    have hlookup := FunctionType.subtypeOf_trans (Or.inr (Or.inl rfl))
      (FunctionType.ofArray_mono (coverSequences members).subtypeOf_anyItems) hf
    exact array_subtypeOf_iff.2 (Or.inr (Or.inr ⟨f, rfl, hlookup⟩))

/-- A function with a type of its own is overlooked exactly if it is no instance. -/
theorem overlooks_function_iff {t : ItemType} {i : Item} (hi : i.functionType? ≠ none) :
    t.overlooks i ↔ ¬t.hasInstance i := by
  cases i with
  | function _ _ _ | coerced _ _ => simp [overlooks, hasInstance_eq_runtimeType, Item.runtimeType]
  | _ => exact absurd rfl hi

/-- An item whose runtime type passes is an instance exactly if it is not overlooked. -/
theorem hasInstance_iff_not_overlooks {t : ItemType} {i : Item}
    (hi : i.functionType? = none → i.runtimeType.subtypeOf t) : t.hasInstance i ↔ ¬t.overlooks i := by
  by_cases hfun : i.functionType? = none
  · have hsub := hi hfun
    cases i with
    | atomic _ | node _ =>
        rw [(hasInstance_eq_runtimeType t (by simp) (by simp)).trans hsub]
        simp [overlooks]
    | array members =>
        rw [hasInstance_array_of_anyArray hsub]
        simp [overlooks]
    | map entries =>
        refine ⟨fun hinst hover => ?_, hasInstance_map_of_anyMap hsub⟩
        cases t with
        | map k v =>
            obtain ⟨rfl, rfl⟩ := anyMap_subtypeOf_map_iff.1 hsub
            obtain ⟨_, heq, hall⟩ := map_hasInstance_iff.1 hinst
            cases heq
            obtain ⟨e, he, hkey⟩ := List.any_eq_true.1 hover
            rw [(hall e he).1] at hkey
            cases hkey
        | _ => simp [overlooks] at hover
    | function _ _ _ | coerced _ _ => cases hfun
  · rw [overlooks_function_iff hfun, Classical.not_not]

end ItemType

namespace Occurrence

theorem admits_ofSize (n : Nat) : (ofSize (some n)).admits n := by
  match n with
  | 0 | 1 => rfl
  | n + 2 => simp [ofSize, admits, lower, upper?]

end Occurrence

namespace SeqType

variable {s : SeqType} {v : Sequence}

theorem admits_of_staticType (h : v.staticType.subtypeOf s) : s.occurrence.admits v.length := by
  cases v with
  | nil => exact Occurrence.admits_zero_iff.2 (empty_subtypeOf_iff.1 h)
  | cons first rest =>
      obtain ⟨t, ho, hstatic, _⟩ := Sequence.staticType_cons first rest
      rw [hstatic] at h
      obtain ⟨u, p, l, hp, rfl, _, hop, _⟩ := of_subtypeOf_iff.1 h
      exact Occurrence.admits_of_subtypeOf hop (Occurrence.admits_ofSize _)

/-- Where the static type passes, an item matches exactly if it is not overlooked. -/
theorem hasItem_iff_of_staticType (h : v.staticType.subtypeOf s) {i : Item} (hi : i ∈ v) :
    s.hasItem i ↔ ¬s.itemType.overlooks i := by
  cases v with
  | nil => cases hi
  | cons first rest =>
      obtain ⟨t, ho, hstatic, hcover⟩ := Sequence.staticType_cons first rest
      rw [hstatic] at h
      obtain ⟨u, p, l, hp, rfl, htu, _, htest⟩ := of_subtypeOf_iff.1 h
      obtain rfl := testsOverlap_none_left htest
      have hsub : i.functionType? = none → i.runtimeType.subtypeOf u := fun hfun =>
        ItemType.subtypeOf_trans (Or.inl (Item.ground_runtimeType hfun).testFree) (hcover i hi hfun) htu
      simpa [hasItem, itemType, test?] using ItemType.hasInstance_iff_not_overlooks hsub

/-- Where the static type passes, a sequence is an instance exactly if no item is overlooked. -/
theorem hasInstance_iff_of_staticType (h : v.staticType.subtypeOf s) :
    s.hasInstance v ↔ ¬∃ i ∈ v, s.itemType.overlooks i := by
  rw [hasInstance_iff]
  constructor
  · rintro ⟨_, hall⟩ ⟨i, hi, hover⟩
    exact (hasItem_iff_of_staticType h hi).1 (hall i hi) hover
  · intro hnone
    refine ⟨admits_of_staticType h, fun i hi => ?_⟩
    exact (hasItem_iff_of_staticType h hi).2 fun hover => hnone ⟨i, hi, hover⟩

theorem treat_isOk_iff (binding? : Option QName) :
    (s.treat v binding?).isOk ↔ v.staticType.subtypeOf s ∨ s.hasInstance v := by
  unfold treat
  split
  · next h => simp [h, Except.isOk, Except.toBool]
  · next h =>
      split
      · next hcount =>
          have hnot : ¬s.hasInstance v := fun hv => by simp [(hasInstance_iff.1 hv).1] at hcount
          simp [h, hnot, Except.isOk, Except.toBool]
      · split
        · next hv => simp [hv, Except.isOk, Except.toBool]
        · next hv => simp [h, hv, Except.isOk, Except.toBool]

/-- A failed assertion is about the count if the count is not admitted, and about the items otherwise. -/
theorem kind_of_treat_error {binding? : Option QName} {c : Cause} (h : s.treat v binding? = .error c) :
    c.kind = if s.occurrence.admits v.length then .typeMismatch else .cardinalityViolation := by
  unfold treat at h
  split at h
  · cases h
  · split at h
    · next hcount =>
        cases h
        rw [Bool.not_eq_true'] at hcount
        simp [hcount, Cause.kind]
    · next hcount =>
        rw [Bool.not_eq_true', Bool.not_eq_false] at hcount
        split at h
        · cases h
        · cases h
          simp [hcount, Cause.kind]

/-- The assertion accepts all instances. It accepts exactly the instances unless the static type passes
and an item is overlooked, and then it does not. A failure is about the count exactly if the count is not
admitted, and about the items otherwise. -/
theorem treat_exact (s : SeqType) (v : Sequence) (binding? : Option QName) :
    (((s.treat v binding?).isOk ↔ s.hasInstance v) ↔
      ¬(v.staticType.subtypeOf s ∧ ∃ i ∈ v, s.itemType.overlooks i)) ∧
    (s.hasInstance v → (s.treat v binding?).isOk) ∧
    ∀ c, s.treat v binding? = .error c →
      (c.kind = .cardinalityViolation ↔ ¬s.occurrence.admits v.length) ∧
      (c.kind = .typeMismatch ↔ s.occurrence.admits v.length) := by
  refine ⟨?_, fun hv => (treat_isOk_iff binding?).2 (Or.inr hv), fun c hc => ?_⟩
  · rw [treat_isOk_iff]
    by_cases hstatic : v.staticType.subtypeOf s
    · rw [hasInstance_iff_of_staticType hstatic]
      simp only [hstatic, true_or, true_and, true_iff]
    · simp only [hstatic, Bool.false_eq_true, false_or, false_and, not_false_eq_true]
  · rw [kind_of_treat_error hc]
    split
    · next hadmits => simp [hadmits]
    · next hadmits => simp [hadmits]

/-- An array in which a map stands beside nothing is asserted to be one, and an integer is not. -/
theorem treat_array_of_maps :
    ((ItemType.array (.of .anyMap .zeroOne none (by decide))).single.treat
      [.array [[.map [(.boolean true, [])]], []]] none).isOk ∧
    ∀ c, (ItemType.array (.of .anyMap .zeroOne none (by decide))).single.treat
      [.atomic (.integer .integer 1)] none = .error c → c.kind = .typeMismatch :=
  ⟨(treat_exact _ _ none).2.1 (by decide +kernel),
    fun c hc => ((treat_exact _ _ none).2.2 c hc).2.2 (by decide)⟩

/-- Two functions, one on maps and one on functions, are asserted to be functions on maps: a map is taken
for the intersection of their parameters, though no map of integers is a function to strings. -/
theorem treat_accepts_non_instance :
    let onMap : List SeqType := [(ItemType.map .integer (ItemType.atomic .integer).single).single]
    let onFunction : List SeqType :=
      [(ItemType.function (.of [(ItemType.atomic .string).single]
        (ItemType.atomic .string).single)).single]
    let result : SeqType := (ItemType.atomic .integer).single
    let target : SeqType := of (.function (.of onMap result)) .oneMore none (by decide)
    let v : Sequence := [.function none onMap result, .function none onFunction result]
    (target.treat v none).isOk ∧ ¬target.hasInstance v := by
  decide +kernel

end SeqType
end SequenceTypes
