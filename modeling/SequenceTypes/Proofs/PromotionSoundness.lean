import SequenceTypes.Promotion
import SequenceTypes.Proofs.CastTypes
import SequenceTypes.Proofs.InstanceCheck

/-! Promotion lands in its target. Each rule for an item (keep, cast of untyped data, numbers, URIs,
coercion of functions) yields items that match, the loop over a sequence concatenates what the rules
yield, and the final count is checked: a promoted sequence is an instance, and promoting an instance
changes nothing. -/

namespace SequenceTypes

open Traversal

namespace Item

theorem isFunction_of_arity? {i : Item} {n : Nat} (h : i.arity? = some n) : i.isFunction := by
  cases i with
  | atomic _ | node _ => simp [arity?] at h
  | _ => rfl

theorem coerced_hasInstance (i : Item) (target : FunctionType) :
    (ItemType.function target).hasInstance (.coerced i target) := by
  rw [ItemType.function_hasInstance_eq]
  exact ItemType.subtypeOf_refl (.function target)

/-- A coerced item is an instance of the function type it was coerced to. -/
theorem hasInstance_of_coerceTo {i j : Item} {target : FunctionType} {optimize : Bool}
    (h : i.coerceTo target optimize = .ok j) : (ItemType.function target).hasInstance j := by
  unfold coerceTo at h
  cases harity : i.arity? with
  | none => simp [harity] at h
  | some arity =>
      cases htarget : target.arity? with
      | none =>
          simp only [harity, htarget] at h
          cases h
          cases target with
          | any =>
              rw [ItemType.any_hasInstance_eq]
              exact isFunction_of_arity? harity
          | of ps r => simp [FunctionType.arity?] at htarget
      | some expected =>
          simp only [harity, htarget] at h
          split at h
          · cases h
          · split at h
            · next hopt =>
                cases h
                rw [Bool.and_eq_true] at hopt
                exact hopt.2
            · cases h
              exact coerced_hasInstance i target

end Item

theorem AtomicValue.type_of_promote? {a p : AtomicValue} {target : AtomicType}
    (h : a.promote? target = some p) : p.type = target := by
  unfold promote? at h
  split at h
  · split at h
    · obtain ⟨x, _, rfl⟩ := Option.map_eq_some_iff.1 h
      rfl
    · cases h
  · split at h
    · obtain ⟨x, _, rfl⟩ := Option.map_eq_some_iff.1 h
      rfl
    · cases h
  · split at h
    · cases h
      rfl
    · cases h
  · cases h

namespace SeqType

variable {ctx : StaticContext} {opts : PromoteOptions} {s : SeqType} {binding? : Option QName}

/-- The values made from an atomic value are of the target or of types derived from it. -/
theorem type_of_promoteAtom {target : AtomicType} {i : Item} {a b : AtomicValue}
    {bs : List AtomicValue} (htarget : target ≠ .nmtokens)
    (h : s.promoteAtom ctx binding? target i a = .ok bs) (hb : b ∈ bs) : b.type.subtypeOf target := by
  unfold promoteAtom at h
  split at h
  · next hsub =>
      cases h
      rw [List.mem_singleton.1 hb]
      exact hsub
  · split at h
    · split at h
      · cases h
      · obtain ⟨c, rfl, hc⟩ := AtomicType.type_of_cast htarget h
        rw [List.mem_singleton.1 hb]
        exact hc
    · split at h
      · next p hp =>
          cases h
          rw [List.mem_singleton.1 hb, AtomicValue.type_of_promote? hp]
          exact AtomicType.subtypeOf_refl target
      · cases h

theorem hasItem_of_itemType (htest : s.test? = none) {i : Item} (hi : s.itemType.hasInstance i) :
    s.hasItem i := by
  rw [hasItem, hi, htest]
  rfl

/-- The items a conversion yields match the type, which has no test and is no list type. -/
theorem hasItem_of_promoteItem (htest : s.test? = none) (hlist : s.itemType ≠ .atomic .nmtokens)
    {i j : Item} {part : Sequence} (h : s.promoteItem ctx opts binding? i = .ok part) (hj : j ∈ part) :
    s.hasItem j := by
  apply hasItem_of_itemType htest
  unfold promoteItem at h
  split at h
  · next target htarget =>
      rw [htarget] at hlist ⊢
      obtain ⟨atoms, _, hrest⟩ := bind_eq_ok_iff.1 h
      obtain ⟨promoted, hpromoted, heq⟩ := bind_eq_ok_iff.1 hrest
      cases heq
      obtain ⟨b, hb, rfl⟩ := List.mem_map.1 hj
      obtain ⟨bs, hbs, hbmem⟩ := List.mem_flatten.1 hb
      obtain ⟨a, _, ha⟩ := exists_of_mem_mapM hpromoted hbs
      rw [ItemType.hasInstance_atomic, ItemType.subtypeOf]
      exact type_of_promoteAtom (fun hn => hlist (by rw [hn])) ha hbmem
  · next target htarget =>
      rw [htarget]
      split at h
      · obtain ⟨k, hk, rfl⟩ := map_eq_ok_iff.1 h
        rw [List.mem_singleton.1 hj]
        exact Item.hasInstance_of_coerceTo hk
      · cases h
  · cases h

/-- What an item becomes: itself if it matches, and what its conversion yields otherwise. -/
def promoteOne (ctx : StaticContext) (opts : PromoteOptions) (s : SeqType) (binding? : Option QName)
    (i : Item) : Except Cause Sequence :=
  if s.hasItem i then .ok [i] else s.promoteItem ctx opts binding? i

theorem hasItem_of_promoteOne (htest : s.test? = none) (hlist : s.itemType ≠ .atomic .nmtokens)
    {i j : Item} {part : Sequence} (h : s.promoteOne ctx opts binding? i = .ok part) (hj : j ∈ part) :
    s.hasItem j := by
  unfold promoteOne at h
  split at h
  · next hi =>
      cases h
      rw [List.mem_singleton.1 hj]
      exact hi
  · exact hasItem_of_promoteItem htest hlist h hj

end SeqType

/-! ### The loop

Once a builder has been started, it collects what the items become. Before that, the items kept so far
stand for themselves, and a builder is started with them at the first item that has to be converted. -/

namespace Builder

variable {α ε : Type}

theorem push_eq_append (b : Builder α) (i : α) : b.push i = b.append [i] := by
  simp [push, append]

theorem append_append (b : Builder α) (v w : List α) : (b.append v).append w = b.append (v ++ w) := by
  simp [append]

theorem ofList_append (v w : List α) : (ofList v).append w = ofList (v ++ w) := by
  simp [append, ofList]

/-- What an item becomes: itself if it is kept, and what its conversion yields otherwise. -/
def part (keeps : α → Bool) (convert : α → Except ε (List α)) (i : α) : Except ε (List α) :=
  if keeps i then .ok [i] else convert i

variable {keeps : α → Bool} {convert : α → Except ε (List α)}

theorem walk_some (kept : List α) (b : Builder α) (rest : List α) :
    walk keeps convert kept (some b) rest =
      (rest.mapM (part keeps convert)).map fun parts => some (b.append parts.flatten) := by
  induction rest generalizing kept b with
  | nil => simp [walk, append, pure, Except.pure, Except.map]
  | cons i rest ih =>
      rw [walk, map_mapM_cons]
      by_cases hi : keeps i
      · rw [if_pos hi, part, if_pos hi, Option.map_some, ih, push_eq_append]
        simp only [append_append]
        rfl
      · rw [if_neg hi, part, if_neg hi]
        simp only [Option.getD_some, ih, append_append]
        rfl

theorem walk_none (kept rest : List α) :
    walk keeps convert kept none rest =
      if rest.all keeps then .ok none
      else (rest.mapM (part keeps convert)).map fun parts => some (.ofList (kept ++ parts.flatten)) := by
  induction rest generalizing kept with
  | nil => rfl
  | cons i rest ih =>
      rw [walk, map_mapM_cons, List.all_cons]
      by_cases hi : keeps i
      · rw [if_pos hi, part, if_pos hi, Option.map_none, ih, hi, Bool.true_and]
        simp only [List.append_assoc]
        rfl
      · rw [if_neg hi, part, if_neg hi]
        simp only [hi, Bool.false_and, Bool.false_eq_true, if_false, Option.getD_none, walk_some,
          ofList_append, List.flatten_cons, List.append_assoc]

end Builder

namespace SeqType

variable {ctx : StaticContext} {opts : PromoteOptions} {s : SeqType} {binding? : Option QName}

theorem promoteOne_of_hasItem {i : Item} (hi : s.hasItem i) :
    s.promoteOne ctx opts binding? i = .ok [i] := by
  rw [promoteOne, if_pos hi]

theorem promoteOne_of_not_hasItem {i : Item} (hi : ¬s.hasItem i) :
    s.promoteOne ctx opts binding? i = s.promoteItem ctx opts binding? i := by
  rw [promoteOne, if_neg hi]

theorem walk_hasItem_eq_mapM (kept rest : List Item) :
    Builder.walk s.hasItem (s.promoteItem ctx opts binding?) kept none rest =
      if rest.all s.hasItem then .ok none
      else (rest.mapM (s.promoteOne ctx opts binding?)).map fun parts =>
        some (.ofList (kept ++ parts.flatten)) :=
  Builder.walk_none kept rest

theorem mapM_promoteOne_of_all {v : Sequence} (hall : ∀ i ∈ v, s.hasItem i) :
    v.mapM (s.promoteOne ctx opts binding?) = .ok (v.map ([·])) :=
  mapM_eq_ok_of_forall fun i hi => promoteOne_of_hasItem (hall i hi)

/-- A promoted sequence is made of what its items become, and is of an admitted length. -/
theorem parts_of_promote {v r : Sequence} (h : s.promote ctx opts binding? v = .ok r) :
    s.occurrence.admits r.length ∧
      ∃ parts, v.mapM (s.promoteOne ctx opts binding?) = .ok parts ∧ r = parts.flatten := by
  have hkept : s.occurrence.admits v.length → (∀ i ∈ v, s.hasItem i) → r = v →
      s.occurrence.admits r.length ∧
        ∃ parts, v.mapM (s.promoteOne ctx opts binding?) = .ok parts ∧ r = parts.flatten := by
    rintro hadmits hall rfl
    exact ⟨hadmits, _, mapM_promoteOne_of_all hall, (List.flatMap_singleton' r).symm⟩
  unfold promote at h
  simp only at h
  split at h
  · cases h
  · next hadmits =>
      rw [Bool.not_eq_true, Bool.not_eq_false'] at hadmits
      split at h
      · next hhom =>
          rw [Bool.and_eq_true] at hhom
          cases h
          exact hkept hadmits (hasItem_of_homogeneous hhom.1 hhom.2) rfl
      · rw [walk_hasItem_eq_mapM] at h
        split at h
        · next hall =>
            cases h
            exact hkept hadmits (List.all_eq_true.1 hall) rfl
        · obtain ⟨built, hbuilt, hcount⟩ := bind_eq_ok_iff.1 h
          obtain ⟨parts, hparts, rfl⟩ := map_eq_ok_iff.1 hbuilt
          simp only at hcount
          split at hcount
          · next hsize =>
              cases hcount
              exact ⟨hsize, parts, hparts, rfl⟩
          · cases hcount

/-- Promotion leaves an instance as it is. -/
theorem promote_of_hasInstance {v : Sequence} (hv : s.hasInstance v) :
    s.promote ctx opts binding? v = .ok v := by
  obtain ⟨hadmits, hall⟩ := hasInstance_iff.1 hv
  unfold promote
  simp only [hadmits, Bool.not_true, Bool.false_eq_true, if_false]
  split
  · rfl
  · rw [walk_hasItem_eq_mapM, if_pos (List.all_eq_true.2 hall)]
    rfl

/-- A promoted sequence is an instance, provided that the type has no test of its own and is no list
type. -/
theorem hasInstance_of_promote (htest : s.test? = none) (hlist : s.itemType ≠ .atomic .nmtokens)
    {v r : Sequence} (h : s.promote ctx opts binding? v = .ok r) : s.hasInstance r := by
  obtain ⟨hadmits, parts, hparts, rfl⟩ := parts_of_promote h
  refine hasInstance_iff.2 ⟨hadmits, fun j hj => ?_⟩
  obtain ⟨part, hpart, hjpart⟩ := List.mem_flatten.1 hj
  obtain ⟨i, _, hi⟩ := exists_of_mem_mapM hparts hpart
  exact hasItem_of_promoteOne htest hlist hi hjpart

/-- Promotion to a type without test that is no list type yields an instance, in count and in every item,
and promotion of that, in any context, yields it again. An instance of any type is left unchanged. -/
theorem promote_sound_and_idempotent (s : SeqType) :
    (s.test? = none → s.itemType ≠ .atomic .nmtokens →
      ∀ ctx opts binding? v r, s.promote ctx opts binding? v = .ok r →
        s.hasInstance r ∧ s.occurrence.admits r.length ∧ (∀ i ∈ r, s.hasItem i) ∧
          ∀ ctx' opts' binding', s.promote ctx' opts' binding' r = .ok r) ∧
    (∀ ctx opts binding? v, s.hasInstance v → s.promote ctx opts binding? v = .ok v) := by
  refine ⟨?_, fun _ _ _ _ hv => promote_of_hasInstance hv⟩
  intro htest hlist ctx opts binding? v r h
  have hr := hasInstance_of_promote htest hlist h
  obtain ⟨hadmits, hall⟩ := hasInstance_iff.1 hr
  exact ⟨hr, hadmits, hall, fun _ _ _ => promote_of_hasInstance hr⟩

/-- An array of a URI and of untyped data becomes two strings, which stay as they are. -/
theorem promote_array_to_strings :
    (of (.atomic .string) .oneMore none (by decide)).promote .initial .standard none
        [.array [[.atomic (.anyURI "u")], [.atomic (.untyped "t")]]] =
      .ok [.atomic (.string .string "u"), .atomic (.string .string "t")] ∧
    (of (.atomic .string) .oneMore none (by decide)).hasInstance
      [.atomic (.string .string "u"), .atomic (.string .string "t")] ∧
    (of (.atomic .string) .oneMore none (by decide)).promote .initial .optimized none
        [.atomic (.string .string "u"), .atomic (.string .string "t")] =
      .ok [.atomic (.string .string "u"), .atomic (.string .string "t")] := by
  have hpromote : (of (.atomic .string) .oneMore none (by decide)).promote .initial .standard none
      [.array [[.atomic (.anyURI "u")], [.atomic (.untyped "t")]]] =
      .ok [.atomic (.string .string "u"), .atomic (.string .string "t")] := by
    with_unfolding_all rfl
  have h := (promote_sound_and_idempotent _).1 rfl (by simp [itemType]) _ _ _ _ _ hpromote
  exact ⟨hpromote, h.1, h.2.2.2 _ _ _⟩

end SeqType
end SequenceTypes
