import SequenceTypes.Proofs.CastAgreement

/-! What a cast yields. An item becomes a single atomic value, of the target or, for the union of all
numbers, of any numeric type, and a cast leaves such a value as it is. So a sequence is cast place by
place to an instance, which is cast to itself in every context; and a cast fails with the failure of the
first item that cannot be cast. -/

namespace SequenceTypes

open Traversal

namespace SeqType

variable {ctx : StaticContext} {s : SeqType} {target : AtomicType} {i : Item} {v : Sequence}

/-- An item is cast to a single atomic value, which every cast to the type leaves as it is. -/
theorem castItem_eq_ok (hs : s.itemType = .atomic target) (hlist : target ≠ .nmtokens)
    (htest : s.test? = none) {w : Sequence} (h : s.castItem ctx i = .ok w) :
    ∃ b, w = [.atomic b] ∧ b.type.subtypeOf target ∧ ∀ ctx', s.castItem ctx' (.atomic b) = .ok w := by
  suffices hexact : ∃ b, w = [.atomic b] ∧ (b.type = target ∨ target = .numeric ∧ b.type.isNumeric) by
    obtain ⟨b, rfl, hb⟩ := hexact
    refine ⟨b, rfl, AtomicType.subtypeOf_of_exact_type hb, fun ctx' => ?_⟩
    rw [castItem_of_atomize hs htest (by rw [Item.atomize]), AtomicType.cast_self hb]
    rfl
  rw [castItem] at h
  split at h
  · next htype =>
      rw [hs] at htype
      obtain ⟨a, rfl, ha⟩ := Item.eq_atomic_of_runtimeType htype
      cases h
      exact ⟨a, rfl, Or.inl ha⟩
  · obtain ⟨result, hresult, hchecked⟩ := bind_eq_ok_iff.1 h
    rw [htest] at hchecked
    have hw : result = w := by simpa using hchecked
    subst hw
    rw [hs, ItemType.cast] at hresult
    obtain ⟨atoms, _, hatoms⟩ := bind_eq_ok_iff.1 hresult
    split at hatoms
    · obtain ⟨bs, hbs, rfl⟩ := map_eq_ok_iff.1 hatoms
      obtain ⟨b, rfl, hb⟩ := AtomicType.exact_type_of_cast hlist hbs
      exact ⟨b, rfl, hb⟩
    · cases hatoms

/-- The casts of the items are single values, which are cast to themselves. -/
theorem singles_of_mapM_castItem (hs : s.itemType = .atomic target) (hlist : target ≠ .nmtokens)
    (htest : s.test? = none) {ws : List Sequence} (h : v.mapM (s.castItem ctx) = .ok ws) :
    ∃ r : Sequence, ws = r.map ([·]) ∧
      ∀ j ∈ r, (∃ b, j = .atomic b ∧ b.type.subtypeOf target) ∧
        ∀ ctx', s.castItem ctx' j = .ok [j] := by
  induction v generalizing ws with
  | nil =>
      cases h
      exact ⟨[], rfl, by simp⟩
  | cons i v ih =>
      obtain ⟨w, rest, hw, hrest, rfl⟩ := mapM_cons_eq_ok_iff.1 h
      obtain ⟨b, rfl, hb, hself⟩ := castItem_eq_ok hs hlist htest hw
      obtain ⟨r, rfl, hr⟩ := ih hrest
      refine ⟨.atomic b :: r, rfl, fun j hj => ?_⟩
      rcases List.mem_cons.1 hj with rfl | hj
      · exact ⟨⟨b, rfl, hb⟩, hself⟩
      · exact hr j hj

theorem cast_of_admits (hadmits : s.occurrence.admits v.length) :
    s.cast ctx v = (v.mapM (s.castItem ctx)).map List.flatten := by
  rw [cast, if_pos hadmits]

theorem admits_of_cast {r : Sequence} (h : s.cast ctx v = .ok r) : s.occurrence.admits v.length := by
  rw [cast] at h
  split at h
  · assumption
  · cases h

theorem cast_isOk_iff :
    (s.cast ctx v).isOk ↔ s.occurrence.admits v.length ∧ ∀ i ∈ v, (s.castItem ctx i).isOk := by
  by_cases hadmits : s.occurrence.admits v.length
  · rw [cast_of_admits hadmits, and_iff_right hadmits, ← isOk_mapM_iff]
    cases v.mapM (s.castItem ctx) <;> rfl
  · rw [cast, if_neg hadmits]
    exact iff_of_false (by simp [Except.isOk, Except.toBool]) fun h => hadmits h.1

/-- A sequence of items that are cast to themselves is cast to itself. -/
theorem cast_of_fixed {r : Sequence} (hadmits : s.occurrence.admits r.length)
    (hself : ∀ j ∈ r, s.castItem ctx j = .ok [j]) : s.cast ctx r = .ok r := by
  rw [cast_of_admits hadmits, mapM_eq_ok_of_forall hself]
  exact congrArg Except.ok (List.flatMap_singleton' r)

/-- A cast goes place by place, and its result is an instance that every cast leaves as it is. -/
theorem places_of_cast (hs : s.itemType = .atomic target) (hlist : target ≠ .nmtokens)
    (htest : s.test? = none) {r : Sequence} (h : s.cast ctx v = .ok r) :
    r.length = v.length ∧
    (∀ n (hn : n < v.length), ∃ b, r[n]? = some (.atomic b) ∧ b.type.subtypeOf target ∧
      s.castItem ctx v[n] = .ok [.atomic b]) ∧
    s.hasInstance r ∧ ∀ ctx', s.cast ctx' r = .ok r := by
  have hadmits := admits_of_cast h
  rw [cast_of_admits hadmits] at h
  obtain ⟨ws, hws, hflat⟩ := map_eq_ok_iff.1 h
  obtain ⟨r', rfl, hfixed⟩ := singles_of_mapM_castItem hs hlist htest hws
  have hr : r' = r := (List.flatMap_singleton' r').symm.trans hflat
  subst hr
  obtain ⟨hlength, hplaces⟩ := getElem?_of_mapM hws
  rw [List.length_map] at hlength
  rw [← hlength] at hadmits
  refine ⟨hlength, fun n hn => ?_, ?_, fun ctx' => cast_of_fixed hadmits fun j hj => (hfixed j hj).2 ctx'⟩
  · obtain ⟨w, hw, hcast⟩ := hplaces n hn
    rw [List.getElem?_map] at hw
    obtain ⟨j, hj, rfl⟩ := Option.map_eq_some_iff.1 hw
    obtain ⟨⟨b, rfl, hb⟩, _⟩ := hfixed j (List.mem_of_getElem? hj)
    exact ⟨b, hj, hb, hcast⟩
  · refine hasInstance_iff.2 ⟨hadmits, fun j hj => hasItem_of_itemType htest ?_⟩
    obtain ⟨⟨b, rfl, hb⟩, _⟩ := hfixed j hj
    rw [hs, ItemType.hasInstance_atomic, ItemType.subtypeOf]
    exact hb

/-- A cast of an admitted length fails as the first item does that cannot be cast. -/
theorem first_failure_of_cast (hadmits : s.occurrence.admits v.length)
    (hfail : ∃ i ∈ v, ¬(s.castItem ctx i).isOk) :
    ∃ before i after e, v = before ++ i :: after ∧ (∀ j ∈ before, (s.castItem ctx j).isOk) ∧
      s.castItem ctx i = .error e ∧ s.cast ctx v = .error e := by
  cases hv : v.mapM (s.castItem ctx) with
  | error e =>
      obtain ⟨before, i, after, hsplit, hbefore, hi⟩ := first_failure_of_mapM hv
      refine ⟨before, i, after, e, hsplit, hbefore, hi, ?_⟩
      rw [cast_of_admits hadmits, hv]
      rfl
  | ok ws =>
      obtain ⟨i, hi, hnot⟩ := hfail
      have hok : (v.mapM (s.castItem ctx)).isOk := by rw [hv]; rfl
      exact absurd (isOk_mapM_iff.1 hok i hi) hnot

/-- A cast to an atomic type without test that is no list type succeeds if the length is admitted and all
items can be cast. It then yields in each place the single value that the item is cast to, of the target
or a type derived from it; that is an instance, and every cast leaves it as it is. If the length is
admitted and some item cannot be cast, the cast fails as the first such item does. -/
theorem cast_sound_and_idempotent (hs : s.itemType = .atomic target) (hlist : target ≠ .nmtokens)
    (htest : s.test? = none) (ctx : StaticContext) (v : Sequence) :
    ((s.cast ctx v).isOk ↔ s.occurrence.admits v.length ∧ ∀ i ∈ v, (s.castItem ctx i).isOk) ∧
    (∀ r, s.cast ctx v = .ok r →
      r.length = v.length ∧
      (∀ n (hn : n < v.length), ∃ b, r[n]? = some (.atomic b) ∧ b.type.subtypeOf target ∧
        s.castItem ctx v[n] = .ok [.atomic b]) ∧
      s.hasInstance r ∧ ∀ ctx', s.cast ctx' r = .ok r) ∧
    (s.occurrence.admits v.length → (∃ i ∈ v, ¬(s.castItem ctx i).isOk) →
      ∃ before i after e, v = before ++ i :: after ∧ (∀ j ∈ before, (s.castItem ctx j).isOk) ∧
        s.castItem ctx i = .error e ∧ s.cast ctx v = .error e) := by
  refine ⟨cast_isOk_iff, ?_, first_failure_of_cast⟩
  intro r h
  exact places_of_cast hs hlist htest h

/-- Under the union of all numbers an integer keeps its type and the text in an array becomes a double.
Of two items that cannot be cast, the text comes before the map. -/
theorem cast_to_numbers :
    let numbers : SeqType := of (.atomic .numeric) .oneMore none (by decide)
    let v : Sequence := [.atomic (.integer .int 7), .array [[], [.atomic (.untyped " INF ")]]]
    let r : Sequence := [.atomic (.integer .int 7), .atomic (.double (.infinity false))]
    let w : Sequence := [.atomic (.boolean true), .atomic (.string .string "one"), .map []]
    numbers.cast .initial v = .ok r ∧ numbers.hasInstance r ∧
      (∀ ctx', numbers.cast ctx' r = .ok r) ∧
      (∃ before i after e, w = before ++ i :: after ∧
        (∀ j ∈ before, (numbers.castItem .initial j).isOk) ∧
        numbers.castItem .initial i = .error e ∧ numbers.cast .initial w = .error e) := by
  intro numbers v r w
  have hcast : numbers.cast .initial v = .ok r := by with_unfolding_all rfl
  have hfail : ¬(numbers.castItem .initial (.map [])).isOk := by decide +kernel
  obtain ⟨_, hsound, _⟩ := cast_sound_and_idempotent (s := numbers) rfl (by decide) rfl .initial v
  obtain ⟨_, _, hfirst⟩ := cast_sound_and_idempotent (s := numbers) rfl (by decide) rfl .initial w
  obtain ⟨_, _, hinstance, hself⟩ := hsound r hcast
  exact ⟨hcast, hinstance, hself, hfirst rfl ⟨.map [], by simp [w], hfail⟩⟩

end SeqType
end SequenceTypes
