import SequenceTypes.Proofs.PromotionSoundness

/-! Promotion as it reads item by item. The loop starts a builder at the first item that has to be
converted and fills in what it has passed, it does not enter a sequence of atomic values of one type whose
first item matches, and it counts the items again only if it built something. None of this shows: the
outcome is that of converting the items one after the other and joining the results. -/

namespace SequenceTypes.SeqType

open Traversal

/-- What the items of a sequence become, in order and joined. An item that matches becomes itself, any
other one what its conversion yields; the first that cannot be converted decides the failure. -/
def promoteEach (ctx : StaticContext) (opts : PromoteOptions) (s : SeqType) (binding? : Option QName) :
    Sequence → Except Cause Sequence
  | [] => .ok []
  | i :: rest => do
    let part ← s.promoteOne ctx opts binding? i
    let parts ← promoteEach ctx opts s binding? rest
    return part ++ parts

/-- Promotion item by item, with the number of items checked before and after. -/
def promoteByItem (ctx : StaticContext) (opts : PromoteOptions) (s : SeqType)
    (binding? : Option QName) (v : Sequence) : Except Cause Sequence :=
  let wrongCount := Cause.wrongCount (.ofBinding? binding?) v.staticType s v
  if s.occurrence.admits v.length then do
    let joined := Builder.ofList (← s.promoteEach ctx opts binding? v)
    if s.occurrence.admits joined.size then .ok joined.build else .error wrongCount
  else .error wrongCount

variable {ctx : StaticContext} {opts : PromoteOptions} {s : SeqType} {binding? : Option QName}

theorem promoteEach_eq_mapM (v : Sequence) :
    s.promoteEach ctx opts binding? v = (v.mapM (s.promoteOne ctx opts binding?)).map List.flatten := by
  induction v with
  | nil => rfl
  | cons i rest ih =>
      rw [promoteEach, map_mapM_cons, ih]
      apply bind_congr
      intro part
      cases rest.mapM (s.promoteOne ctx opts binding?) <;> rfl

/-- Where an item does not match, the first one cannot answer for all. -/
theorem not_shortcut_of_not_all {v : Sequence} (hall : ¬∀ i ∈ v, s.hasItem i) :
    ¬(v.isHomogeneous && v.head?.all s.hasItem) := by
  intro h
  rw [Bool.and_eq_true] at h
  exact hall (hasItem_of_homogeneous h.1 h.2)

/-- What the items become decides: it is joined, and the number of items is checked before and after. -/
theorem promote_eq_mapM (v : Sequence) :
    s.promote ctx opts binding? v =
      if s.occurrence.admits v.length then
        v.mapM (s.promoteOne ctx opts binding?) >>= fun parts =>
          if s.occurrence.admits parts.flatten.length then .ok parts.flatten
          else .error (.wrongCount (.ofBinding? binding?) v.staticType s v)
      else .error (.wrongCount (.ofBinding? binding?) v.staticType s v) := by
  by_cases hadmits : s.occurrence.admits v.length
  · rw [if_pos hadmits]
    by_cases hall : ∀ i ∈ v, s.hasItem i
    · have hjoin : (v.map ([·])).flatten = v := List.flatMap_singleton' v
      rw [promote_of_hasInstance (hasInstance_iff.2 ⟨hadmits, hall⟩), mapM_promoteOne_of_all hall]
      show _ = if s.occurrence.admits (v.map ([·])).flatten.length then _ else _
      rw [hjoin, if_pos hadmits]
    · rw [promote]
      simp only [hadmits, Bool.not_true, Bool.false_eq_true, if_false, if_neg (not_shortcut_of_not_all hall)]
      rw [walk_hasItem_eq_mapM, if_neg (fun h => hall (List.all_eq_true.1 h))]
      cases v.mapM (s.promoteOne ctx opts binding?) <;> rfl
  · rw [promote, if_neg hadmits]
    simp only [hadmits, Bool.not_false, if_true]

/-- The loop that copies at the first mismatch promotes a sequence as the plain definition does: with the
same items, and with the same failure where there is one. -/
theorem promote_eq_promoteByItem (ctx : StaticContext) (opts : PromoteOptions) (s : SeqType)
    (binding? : Option QName) (v : Sequence) :
    s.promote ctx opts binding? v = s.promoteByItem ctx opts binding? v := by
  rw [promote_eq_mapM, promoteByItem, promoteEach_eq_mapM]
  cases v.mapM (s.promoteOne ctx opts binding?) <;> rfl

/-- Untyped data between integers: its value takes its place. -/
example : promote .initial .standard (of (.atomic .integer) .oneMore none (by decide)) none
      [.atomic (.integer .long 1), .atomic (.untyped "2"), .atomic (.integer .integer 3)] =
    .ok [.atomic (.integer .long 1), .atomic (.integer .integer 2), .atomic (.integer .integer 3)] := by
  with_unfolding_all rfl

end SequenceTypes.SeqType
