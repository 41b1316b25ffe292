import SequenceTypes.Proofs.CastAgreement
import SequenceTypes.Proofs.PromotionLoop

/-! Atomization. The atomic values of an item are those of its leaves, from left to right: of the items
reached through the members of arrays. A function or a map among the leaves has no value. Promotion to an
atomic type takes the values of an item one by one, so it comes to the same whether they stand in arrays
and nodes or by themselves. -/

namespace SequenceTypes

open Traversal

mutual

/-- The items reached from an item through the members of arrays, from left to right. -/
def Item.leaves : Item → List Item
  | .array members => Item.leavesOfMembers members
  | i => [i]

def Sequence.leaves : Sequence → List Item
  | [] => []
  | i :: is => i.leaves ++ Sequence.leaves is

def Item.leavesOfMembers : List (List Item) → List Item
  | [] => []
  | m :: ms => Sequence.leaves m ++ Item.leavesOfMembers ms

end

def Item.leafValue : Item → Except Cause AtomicValue
  | .atomic a => .ok a
  | .node n => .ok n.typedValue
  | i => .error (.notAtomizable i)

mutual

theorem Item.atomize_eq_mapM_leaves : (i : Item) → i.atomize = i.leaves.mapM Item.leafValue
  | .atomic _ | .node _ | .function _ _ _ | .coerced _ _ | .map _ => rfl
  | .array members => by
      rw [Item.atomize, Item.leaves]
      exact Item.atomizeMembers_eq_mapM_leaves members

theorem Sequence.atomize_eq_mapM_leaves :
    (v : Sequence) → Sequence.atomize v = (Sequence.leaves v).mapM Item.leafValue
  | [] => rfl
  | i :: is => by
      rw [Sequence.atomize, Sequence.leaves, List.mapM_append, Item.atomize_eq_mapM_leaves i,
        Sequence.atomize_eq_mapM_leaves is]

theorem Item.atomizeMembers_eq_mapM_leaves :
    (ms : List (List Item)) → Item.atomizeMembers ms = (Item.leavesOfMembers ms).mapM Item.leafValue
  | [] => rfl
  | m :: ms => by
      rw [Item.atomizeMembers, Item.leavesOfMembers, List.mapM_append,
        Sequence.atomize_eq_mapM_leaves m, Item.atomizeMembers_eq_mapM_leaves ms]

end

theorem Item.isOk_leafValue_iff {i : Item} : i.leafValue.isOk ↔ i.isFunction = false := by
  cases i <;> simp [leafValue, isFunction, Except.isOk, Except.toBool]

/-- A sequence has atomic values exactly if no function and no map is among its leaves. -/
theorem Sequence.isOk_atomize_iff {v : Sequence} :
    v.atomize.isOk ↔ ∀ i ∈ v.leaves, i.isFunction = false := by
  rw [Sequence.atomize_eq_mapM_leaves, isOk_mapM_iff]
  exact forall₂_congr fun i _ => Item.isOk_leafValue_iff

/-- Atomic values are their own values. -/
theorem Sequence.atomize_map_atomic (w : List AtomicValue) :
    Sequence.atomize (w.map .atomic) = .ok w := by
  induction w with
  | nil => rfl
  | cons a w ih =>
      rw [List.map_cons, Sequence.atomize, ih, Item.atomize]
      rfl

namespace SeqType

variable {ctx : StaticContext} {opts : PromoteOptions} {s : SeqType} {binding? : Option QName}
  {target : AtomicType}

/-- Where any number of items is admitted, a sequence becomes what its items become. -/
theorem promote_of_unbounded (hs : ∀ n, s.occurrence.admits n) (v : Sequence) :
    s.promote ctx opts binding? v = s.promoteEach ctx opts binding? v := by
  rw [promote_eq_mapM, if_pos (hs v.length), promoteEach_eq_mapM]
  cases v.mapM (s.promoteOne ctx opts binding?) with
  | error c => rfl
  | ok parts => exact if_pos (hs parts.flatten.length)

/-- What becomes of an atomic value, failures being told apart by their kind alone. -/
def atomOutcome (ctx : StaticContext) (s : SeqType) (binding? : Option QName) (target : AtomicType)
    (a : AtomicValue) : Except ErrorKind (List AtomicValue) :=
  (s.promoteAtom ctx binding? target (.atomic a) a).mapError Cause.kind

/-- The item that an atomic value is taken from shows in the failure only, and not in its kind. -/
theorem kind_promoteAtom (i : Item) (a : AtomicValue) :
    (s.promoteAtom ctx binding? target i a).mapError Cause.kind = s.atomOutcome ctx binding? target a := by
  unfold atomOutcome promoteAtom
  split
  · rfl
  · split
    · split <;> rfl
    · split <;> rfl

theorem kind_promoteOne (hs : s.itemType = .atomic target) {i : Item} {atoms : List AtomicValue}
    (ha : i.atomize = .ok atoms) :
    (s.promoteOne ctx opts binding? i).mapError Cause.kind =
      (atoms.mapM (s.atomOutcome ctx binding? target)).map fun parts => parts.flatten.map .atomic := by
  rw [promoteOne_of_atoms hs ha, mapError_map, mapError_mapM]
  simp only [kind_promoteAtom]

/-- The items of a sequence become what its atomic values do, one after the other. -/
theorem kind_promoteEach (hs : s.itemType = .atomic target) {v : Sequence} {w : List AtomicValue}
    (hw : v.atomize = .ok w) :
    (s.promoteEach ctx opts binding? v).mapError Cause.kind =
      (w.mapM (s.atomOutcome ctx binding? target)).map fun parts => parts.flatten.map .atomic := by
  induction v generalizing w with
  | nil =>
      rw [Sequence.atomize] at hw
      cases hw
      rfl
  | cons i v ih =>
      rw [Sequence.atomize] at hw
      obtain ⟨first, hfirst, htail⟩ := bind_eq_ok_iff.1 hw
      obtain ⟨rest, hrest, hjoin⟩ := bind_eq_ok_iff.1 htail
      cases hjoin
      rw [promoteEach, mapError_bind, kind_promoteOne hs hfirst, List.mapM_append]
      simp only [mapError_bind, ih hrest]
      cases first.mapM (s.atomOutcome ctx binding? target) with
      | error e => rfl
      | ok parts =>
          cases rest.mapM (s.atomOutcome ctx binding? target) with
          | error e => rfl
          | ok more =>
              show Except.ok (parts.flatten.map Item.atomic ++ more.flatten.map Item.atomic) =
                Except.ok ((parts ++ more).flatten.map Item.atomic)
              rw [List.flatten_append, List.map_append]

/-- If neither a function nor a map is among the leaves of a sequence, the sequence has atomic values, and
promoting it to any number of values of an atomic type comes to the same as promoting these: both yield
the same, or both fail with failures of one kind. -/
theorem promote_commutes_with_atomization (hs : s.itemType = .atomic target)
    (hmany : s.occurrence = .zeroMore) (ctx : StaticContext) (opts : PromoteOptions)
    (binding? : Option QName) {v : Sequence} (hv : ∀ i ∈ v.leaves, i.isFunction = false) :
    ∃ w, v.atomize = .ok w ∧
      ((∃ r, s.promote ctx opts binding? v = .ok r ∧
          s.promote ctx opts binding? (w.map .atomic) = .ok r) ∨
        ∃ c d, s.promote ctx opts binding? v = .error c ∧
          s.promote ctx opts binding? (w.map .atomic) = .error d ∧ c.kind = d.kind) := by
  have hadmits : ∀ n, s.occurrence.admits n := by
    intro n
    rw [hmany, Occurrence.admits_iff]
    exact ⟨Nat.zero_le n, rfl⟩
  cases hw : v.atomize with
  | error c =>
      have hok := Sequence.isOk_atomize_iff.2 hv
      rw [hw] at hok
      cases hok
  | ok w =>
      refine ⟨w, rfl, outcomes_of_mapError_eq ?_⟩
      rw [promote_of_unbounded hadmits, promote_of_unbounded hadmits, kind_promoteEach hs hw,
        kind_promoteEach hs (Sequence.atomize_map_atomic w)]

/-- An element inside an array inside an array is promoted as its value is beside other values. -/
theorem promote_atomized_members :
    let integers : SeqType := of (.atomic .integer) .zeroMore none (by decide)
    let v : Sequence :=
      [.array [[.atomic (.untyped "1")], [.array [[.node (.element (.ofLocal "e") " 2 ")]]]],
        .atomic (.integer .long 3)]
    let w : List AtomicValue := [.untyped "1", .untyped " 2 ", .integer .long 3]
    let r : Sequence :=
      [.atomic (.integer .integer 1), .atomic (.integer .integer 2), .atomic (.integer .long 3)]
    (∀ i ∈ v.leaves, i.isFunction = false) ∧ v.atomize = .ok w ∧
      integers.promote .initial .standard none v = .ok r ∧
      integers.promote .initial .standard none (w.map .atomic) = .ok r := by
  intro integers v w r
  have hleaves : ∀ i ∈ v.leaves, i.isFunction = false := by decide +kernel
  have hatoms : v.atomize = .ok w := rfl
  have hpromote : integers.promote .initial .standard none v = .ok r := by with_unfolding_all rfl
  obtain ⟨w', hw', houtcome⟩ :=
    promote_commutes_with_atomization (s := integers) rfl rfl .initial .standard none hleaves
  obtain rfl : w = w' := Except.ok.inj (hatoms.symm.trans hw')
  refine ⟨hleaves, hatoms, hpromote, ?_⟩
  rcases houtcome with ⟨r', hr, hr'⟩ | ⟨c, d, hc, _⟩
  · rw [hr', ← hr, hpromote]
  · rw [hpromote] at hc
    cases hc

end SeqType
end SequenceTypes
