import SequenceTypes.Proofs.CastAgreement
import SequenceTypes.Proofs.FlatIntersection

/-! The static prediction of promotion. `promotable` answers from two types alone whether a sequence of the
one may be promoted to the other. A promotion that succeeds keeps an item that both types have, coerces a
function, or converts atomic values, and the prediction has a rule for each of these. Its rules for atomic
values look at atomic types and at nodes with untyped data only. It misses arrays, which are promoted
member by member, the nodes that hold strings, tests that exclude each other, and untyped data that is read
as a list of tokens. There is nothing else that it misses. -/

namespace SequenceTypes

open Traversal

theorem AtomicType.eq_anyAtomic_of_subtypeOf {t : AtomicType} (h : anyAtomic.subtypeOf t) :
    t = .anyAtomic :=
  List.mem_singleton.1 (subtypeOf_iff_mem.1 h)

theorem Item.eq_node_of_hasInstance {i : Item} {k : NodeKind} (h : (ItemType.node k).hasInstance i) :
    ∃ n, i = .node n ∧ n.kind.subtypeOf k := by
  rw [ItemType.node_hasInstance_eq] at h
  obtain ⟨j, hj, hjk⟩ := ItemType.subtypeOf_node_iff.1 h
  cases i with
  | node n =>
      cases hj
      exact ⟨n, rfl, hjk⟩
  | _ => cases hj

namespace ItemType

variable {t u : ItemType} {i : Item}

/-- A function, map or array is an instance of function types and of `item()` only. -/
theorem eq_item_of_hasInstance (ht : t.isFunction = false) (hi : i.isFunction) (hti : t.hasInstance i) :
    t = item := by
  cases t with
  | item => rfl
  | function _ | map _ _ | array _ => cases ht
  | atomic s =>
      obtain ⟨a, rfl, _⟩ := Item.eq_atomic_of_hasInstance hti
      cases hi
  | node k =>
      obtain ⟨n, rfl, _⟩ := Item.eq_node_of_hasInstance hti
      cases hi

/-- Item types with a common item intersect, or both are types of functions. -/
theorem isSome_intersect?_or_isFunction (hti : t.hasInstance i) (hui : u.hasInstance i) :
    (t.intersect? u).isSome ∨ t.isFunction ∧ u.isFunction := by
  cases ht : t.isFunction with
  | false =>
      cases hu : u.isFunction with
      | false => exact Or.inl (isSome_intersect?_of_hasInstance ht hu hti hui)
      | true =>
          obtain rfl := eq_item_of_hasInstance ht (isFunction_of_hasInstance hu hui) hti
          exact Or.inl (isSome_intersect?_of_comparable (Or.inr u.subtypeOf_item))
  | true =>
      cases hu : u.isFunction with
      | false =>
          obtain rfl := eq_item_of_hasInstance hu (isFunction_of_hasInstance ht hti) hui
          exact Or.inl (isSome_intersect?_of_comparable (Or.inl t.subtypeOf_item))
      | true => exact Or.inr ⟨rfl, rfl⟩

theorem intersect?_atomic_eq_none (ht : t.isNode ∨ t.isFunction) (s : AtomicType) :
    t.intersect? (.atomic s) = none := by
  cases t <;> simp [intersect?, subtypeOf, isNode, isFunction] at ht ⊢

end ItemType

namespace SeqType

variable {s target : SeqType} {i : Item}

/-- Tests are for nodes: a type that matches any other item has no test. -/
theorem test?_eq_none_of_hasItem (hi : ∀ n, i ≠ .node n) (h : s.hasItem i) : s.test? = none := by
  cases hk : s.test? with
  | none => rfl
  | some k =>
      have haccepts := (hasItem_iff.1 h).2
      rw [hk] at haccepts
      obtain ⟨n, rfl, _⟩ := KindTest.acceptsItem_iff.1 haccepts
      exact absurd rfl (hi n)

/-- Whether some instances may be numbers or URIs that are promoted to an atomic type. -/
def couldConvert (s : SeqType) : AtomicType → Bool
  | .double => s.couldBe .float || s.couldBe .decimal
  | .float => s.couldBe .decimal
  | .string => s.couldBe .anyURI
  | _ => false

/-! ### The rules of the prediction

All of them for types whose occurrences admit a common count. -/

section Rules

variable (ho : (s.occurrence.intersect? target.occurrence).isSome)

include ho

theorem promotable_of_meet (ht : (s.itemType.intersect? target.itemType).isSome)
    (hk : (mergeTests? s.test? target.test?).isSome) : s.promotable target := by
  rw [promotable, if_pos (isSome_intersect?_iff.2 ⟨ho, ht, hk⟩)]

theorem promotable_of_functions (hs : s.itemType.isFunction) (ht : target.itemType.isFunction) :
    s.promotable target := by
  unfold promotable
  split
  · rfl
  · split
    · next hnone => simp [Option.isNone_iff_eq_none.1 hnone] at ho
    · split
      · next t hatomic =>
          rw [hatomic] at ht
          cases ht
      · rw [ht, hs]
        rfl

/-- The prediction for an atomic target, where the types do not intersect. -/
theorem promotable_atomic {t : AtomicType} (ht : target.itemType = .atomic t)
    (hnone : s.intersect? target = none) :
    s.promotable target =
      if s.itemType.isUntyped then !t.isNamespaceSensitive else s.couldConvert t := by
  obtain ⟨o, ho⟩ := Option.isSome_iff_exists.1 ho
  simp only [promotable, hnone, ho, ht, Option.isSome_none, Option.isNone_some, Bool.false_eq_true,
    if_false]
  rfl

theorem promotable_of_rule {t : AtomicType} (ht : target.itemType = .atomic t)
    (hrule : if s.itemType.isUntyped then t.isNamespaceSensitive = false else s.couldConvert t) :
    s.promotable target := by
  cases hmeet : s.intersect? target with
  | some m =>
      rw [promotable, hmeet]
      rfl
  | none =>
      rw [promotable_atomic ho ht hmeet]
      split at hrule
      · next huntyped => rw [if_pos huntyped, hrule, Bool.not_false]
      · next huntyped => rw [if_neg huntyped, hrule]

/-- Nodes and functions are never atomic values themselves. Only nodes with untyped data have a rule. -/
theorem promotable_atomic_of_no_atoms {t : AtomicType} (ht : target.itemType = .atomic t)
    (hs : s.itemType.isNode ∨ s.itemType.isFunction) :
    s.promotable target = (s.itemType.isUntyped && !t.isNamespaceSensitive) := by
  have hnone : s.intersect? target = none := by
    rw [intersect?, ht, ItemType.intersect?_atomic_eq_none hs]
    simp
  have hcould : s.couldConvert t = false := by
    have hatom : ∀ u, s.couldBe u = false := by
      intro u
      rw [couldBe, ItemType.intersect?_atomic_eq_none hs]
      rfl
    cases t <;> simp [couldConvert, hatom]
  rw [promotable_atomic ho ht hnone, hcould]
  cases s.itemType.isUntyped <;> rfl

/-- An item that both types have is enough. -/
theorem promotable_of_common_item (hs : s.hasItem i) (ht : target.hasItem i) : s.promotable target := by
  obtain ⟨hsi, hsk⟩ := hasItem_iff.1 hs
  obtain ⟨hti, htk⟩ := hasItem_iff.1 ht
  rcases ItemType.isSome_intersect?_or_isFunction hsi hti with hmeet | ⟨hsf, htf⟩
  · exact promotable_of_meet ho hmeet (isSome_mergeTests? hsk htk)
  · exact promotable_of_functions ho hsf htf

/-- A type that has a function may be promoted to a type of functions. -/
theorem promotable_of_function_item (hs : s.hasItem i) (hi : i.isFunction)
    (ht : target.itemType.isFunction) : s.promotable target := by
  have hsi := (hasItem_iff.1 hs).1
  cases hsf : s.itemType.isFunction with
  | true => exact promotable_of_functions ho hsf ht
  | false =>
      have hitem := ItemType.eq_item_of_hasInstance hsf hi hsi
      have htest : s.test? = none := test?_eq_none_of_hasItem (by rintro n rfl; cases hi) hs
      apply promotable_of_meet ho
      · rw [hitem]
        exact ItemType.isSome_intersect?_of_comparable (Or.inr target.itemType.subtypeOf_item)
      · rw [htest]
        rfl

end Rules

variable {ctx : StaticContext} {opts : PromoteOptions} {binding? : Option QName} {v r part : Sequence}

/-- A sequence with items that is promoted has an item that is, and a count that both types admit. -/
theorem exists_item_of_promote (hv : v ≠ []) (hs : s.hasInstance v)
    (h : target.promote ctx opts binding? v = .ok r) :
    (s.occurrence.intersect? target.occurrence).isSome ∧
      ∃ i part, s.hasItem i ∧ target.promoteOne ctx opts binding? i = .ok part := by
  obtain ⟨hlength, hall⟩ := hasInstance_iff.1 hs
  constructor
  · have hadmits : target.occurrence.admits v.length := by
      cases hcount : target.occurrence.admits v.length with
      | true => rfl
      | false => simp [promote, hcount] at h
    exact Occurrence.isSome_intersect?_of_admits hlength hadmits
  · obtain ⟨_, parts, hparts, _⟩ := parts_of_promote h
    cases v with
    | nil => exact absurd rfl hv
    | cons i rest =>
        obtain ⟨part, _, hpart, _, _⟩ := mapM_cons_eq_ok_iff.1 hparts
        exact ⟨i, part, hall i List.mem_cons_self, hpart⟩

/-- What is promoted to a type that is not atomic matches it or is a function. -/
theorem hasItem_or_isFunction_of_promoteOne (htarget : target.itemType.isAtomic = false)
    (h : target.promoteOne ctx opts binding? i = .ok part) :
    target.hasItem i ∨ target.itemType.isFunction ∧ i.isFunction := by
  by_cases hi : target.hasItem i
  · exact Or.inl hi
  · right
    rw [promoteOne_of_not_hasItem hi, promoteItem] at h
    split at h
    · next t ht =>
        rw [ht] at htarget
        cases htarget
    · next f hf =>
        split at h
        · next hfun =>
            rw [hf]
            exact ⟨rfl, hfun⟩
        · cases h
    · cases h

/-- What an atomic value is promoted for: its type is derived from the target, it is untyped and the target
takes it from text, or it is a number or URI that is promoted to the target. -/
theorem cases_of_promoteAtom {t : AtomicType} {a : AtomicValue} {bs : List AtomicValue}
    (h : target.promoteAtom ctx binding? t i a = .ok bs) :
    a.type.subtypeOf t ∨ (a.type = .untyped ∧ t.isNamespaceSensitive = false) ∨
      ∃ p, a.promote? t = some p := by
  unfold promoteAtom at h
  split at h
  · next hsub => exact Or.inl hsub
  · right
    split at h
    · next huntyped =>
        split at h
        · cases h
        · next hsensitive =>
            exact Or.inl ⟨of_decide_eq_true huntyped, by simpa using hsensitive⟩
    · split at h
      · next p hp => exact Or.inr ⟨p, hp⟩
      · cases h

theorem couldBe_of_subtypeOf {a t u : AtomicType} (hs : s.itemType = .atomic u) (hau : a.subtypeOf u)
    (hat : a.subtypeOf t) : s.couldBe t := by
  rw [couldBe, hs]
  apply ItemType.isSome_intersect?_of_comparable
  simpa [ItemType.subtypeOf] using AtomicType.comparable_of_subtypeOf hau hat

/-- A number or URI is promoted to a type that does not depend on namespaces, and the prediction looks for
values of its type. -/
theorem couldConvert_of_promote? {a p : AtomicValue} {t u : AtomicType} (hs : s.itemType = .atomic u)
    (hau : a.type.subtypeOf u) (hp : a.promote? t = some p) :
    t.isNamespaceSensitive = false ∧ s.couldConvert t := by
  unfold AtomicValue.promote? at hp
  split at hp
  · refine ⟨rfl, ?_⟩
    obtain ⟨hsource, _⟩ := Option.ite_none_right_eq_some.1 hp
    rw [couldConvert, Bool.or_eq_true]
    rcases Bool.or_eq_true_iff.1 hsource with hfloat | hdecimal
    · left
      apply couldBe_of_subtypeOf hs hau
      rw [of_decide_eq_true hfloat]
      rfl
    · exact Or.inr (couldBe_of_subtypeOf hs hau hdecimal)
  · obtain ⟨hdecimal, _⟩ := Option.ite_none_right_eq_some.1 hp
    exact ⟨rfl, couldBe_of_subtypeOf hs hau hdecimal⟩
  · obtain ⟨huri, _⟩ := Option.ite_none_right_eq_some.1 hp
    refine ⟨rfl, couldBe_of_subtypeOf hs hau ?_⟩
    rw [huri]
    rfl
  · cases hp

/-- A node is promoted to no type that depends on namespaces. -/
theorem not_isNamespaceSensitive_of_promoteOne {t : AtomicType} {n : Node}
    (ht : target.itemType = .atomic t) (h : target.promoteOne ctx opts binding? (.node n) = .ok part) :
    t.isNamespaceSensitive = false := by
  rw [promoteOne_of_atomize ht (by rw [Item.atomize])] at h
  obtain ⟨bs, hbs, _⟩ := map_eq_ok_iff.1 h
  rcases cases_of_promoteAtom hbs with hsub | ⟨_, hsensitive⟩ | ⟨p, hp⟩
  · -- untyped data and strings have no supertype but the root
    have hnode : n.typedValue.type = .untyped ∨ n.typedValue.type = .string := by
      rw [Node.typedValue]
      split
      · exact Or.inl rfl
      · exact Or.inr rfl
    have hparent : n.typedValue.type.parent? = some .anyAtomic := by
      rcases hnode with htype | htype <;> rw [htype] <;> rfl
    rcases AtomicType.eq_or_subtypeOf_of_parent? hparent hsub with rfl | hany
    · rcases hnode with htype | htype <;> rw [htype] <;> rfl
    · rw [AtomicType.eq_anyAtomic_of_subtypeOf hany]
      rfl
  · exact hsensitive
  · exact (couldConvert_of_promote? (s := (ItemType.atomic _).single) rfl
      (AtomicType.subtypeOf_refl _) hp).1

/-- The prediction for a type of atomic values: it misses untyped data that is read as a list of tokens,
where the type takes in all atomic values. -/
theorem promotable_iff_of_atomic (ho : (s.occurrence.intersect? target.occurrence).isSome)
    {t u : AtomicType} (hsource : s.itemType = .atomic u) (ht : target.itemType = .atomic t)
    (hs : s.hasItem i) (h : target.promoteOne ctx opts binding? i = .ok part) :
    s.promotable target ↔ ¬(u = .anyAtomic ∧ t = .nmtokens) := by
  obtain ⟨hinstance, _⟩ := hasItem_iff.1 hs
  rw [hsource] at hinstance
  obtain ⟨a, rfl, hau⟩ := Item.eq_atomic_of_hasInstance hinstance
  constructor
  · rintro hpromotable ⟨rfl, rfl⟩
    have hitems : (ItemType.atomic .anyAtomic).intersect? (.atomic .nmtokens) = none := by
      with_unfolding_all rfl
    have hnone : s.intersect? target = none := by
      rw [intersect?, hsource, ht, hitems]
      simp
    rw [promotable_atomic ho ht hnone, hsource] at hpromotable
    cases hpromotable
  · intro hnot
    rw [promoteOne_of_atomize ht (by rw [Item.atomize])] at h
    obtain ⟨bs, hbs, _⟩ := map_eq_ok_iff.1 h
    -- types on one branch meet, since a type with an atomic value has no test
    have hmeet : u.subtypeOf t ∨ t.subtypeOf u → s.promotable target := by
      intro hcomparable
      apply promotable_of_meet ho
      · rw [hsource, ht]
        apply ItemType.isSome_intersect?_of_comparable
        simpa [ItemType.subtypeOf] using hcomparable
      · rw [test?_eq_none_of_hasItem (by simp) hs]
        rfl
    rcases cases_of_promoteAtom hbs with hsub | ⟨huntyped, hsensitive⟩ | ⟨p, hp⟩
    · exact hmeet (AtomicType.comparable_of_subtypeOf hau hsub)
    · rw [huntyped] at hau
      rcases AtomicType.eq_or_subtypeOf_of_parent? (p := .anyAtomic) rfl hau with rfl | hany
      · apply promotable_of_rule ho ht
        rw [hsource]
        exact hsensitive
      · obtain rfl := AtomicType.eq_anyAtomic_of_subtypeOf hany
        have hlist : t ≠ .nmtokens := fun hlist => hnot ⟨rfl, hlist⟩
        exact hmeet (Or.inr (AtomicType.subtypeOf_anyAtomic hlist))
    · obtain ⟨hsensitive, hconvert⟩ := couldConvert_of_promote? hsource hau hp
      apply promotable_of_rule ho ht
      split
      · exact hsensitive
      · exact hconvert

/-! ### What the prediction misses -/

/-- Whether the prediction misses the promotions from one type to another, which it does for atomic targets
only: from arrays, which are atomized, and from the other functions with them; from nodes that hold strings;
from items whose test excludes the test of the target, which promotion does not look at; and from all atomic
values to the list type. -/
def missesPromotion (s target : SeqType) : Bool :=
  match target.itemType with
  | .atomic t =>
    match s.itemType with
    | .item => (mergeTests? s.test? target.test?).isNone && t ≠ .double && t ≠ .float && t ≠ .string
    | .atomic u => u = .anyAtomic && t = .nmtokens
    | .node k => !k.atomizesUntyped
    | .function _ | .map _ _ | .array _ => true
  | _ => false

theorem missesPromotion_of_not_isAtomic (h : target.itemType.isAtomic = false) :
    s.missesPromotion target = false := by
  unfold missesPromotion
  split
  · next t ht =>
      rw [ht] at h
      cases h
  · rfl

/-- The prediction for `item()`: an atomic target is covered unless the tests exclude each other. -/
theorem promotable_of_item (ho : (s.occurrence.intersect? target.occurrence).isSome) {t : AtomicType}
    (hsource : s.itemType = .item) (ht : target.itemType = .atomic t) :
    s.promotable target = !s.missesPromotion target := by
  have hatom : ∀ u : AtomicType, (ItemType.item.intersect? (.atomic u)).isSome := fun u =>
    ItemType.isSome_intersect?_of_comparable (Or.inr (ItemType.subtypeOf_item _))
  have hmiss : s.missesPromotion target = ((mergeTests? s.test? target.test?).isNone &&
      t ≠ .double && t ≠ .float && t ≠ .string) := by
    simp only [missesPromotion, ht, hsource]
  rw [hmiss]
  cases htests : mergeTests? s.test? target.test? with
  | some k =>
      apply promotable_of_meet ho
      · rw [hsource, ht]
        exact hatom t
      · rw [htests]
        rfl
  | none =>
      have hnone : s.intersect? target = none := by
        rw [intersect?, htests]
        simp
      rw [promotable_atomic ho ht hnone, hsource]
      cases t <;> simp [ItemType.isUntyped, couldConvert, couldBe, hsource, hatom]

/-- The prediction is right about every promotion that succeeds, but for the ones it misses. -/
theorem promotable_exact (hv : v ≠ []) (hs : s.hasInstance v)
    (h : target.promote ctx opts binding? v = .ok r) :
    s.promotable target ↔ ¬s.missesPromotion target := by
  obtain ⟨ho, i, part, hsi, hpart⟩ := exists_item_of_promote hv hs h
  cases htarget : target.itemType.asAtomic? with
  | none =>
      have hatomic : target.itemType.isAtomic = false := by rw [ItemType.isAtomic, htarget]; rfl
      have hpromotable : s.promotable target := by
        rcases hasItem_or_isFunction_of_promoteOne hatomic hpart with hti | ⟨htf, hif⟩
        · exact promotable_of_common_item ho hsi hti
        · exact promotable_of_function_item ho hsi hif htf
      simp [hpromotable, missesPromotion_of_not_isAtomic hatomic]
  | some t =>
      have ht : target.itemType = .atomic t := by
        cases hcase : target.itemType <;> simp_all [ItemType.asAtomic?]
      cases hsource : s.itemType with
      | item =>
          rw [promotable_of_item ho hsource ht]
          simp
      | atomic u =>
          rw [promotable_iff_of_atomic ho hsource ht hsi hpart]
          simp [missesPromotion, ht, hsource]
      | node k =>
          have hinstance := (hasItem_iff.1 hsi).1
          rw [hsource] at hinstance
          obtain ⟨n, rfl, _⟩ := Item.eq_node_of_hasInstance hinstance
          rw [promotable_atomic_of_no_atoms ho ht (Or.inl (by rw [hsource]; rfl)),
            not_isNamespaceSensitive_of_promoteOne ht hpart]
          simp [missesPromotion, ht, hsource, ItemType.isUntyped]
      | function _ | map _ _ | array _ =>
          rw [promotable_atomic_of_no_atoms ho ht (Or.inr (by rw [hsource]; rfl))]
          simp [missesPromotion, ht, hsource, ItemType.isUntyped]

/-- Elements and text nodes are promoted to integers, and the prediction says so. -/
theorem promotable_of_nodes :
    let nodes : SeqType := of (.node .any) .oneMore none (by decide)
    let integers : SeqType := of (.atomic .integer) .zeroMore none (by decide)
    let v : Sequence := [.node (.element (.ofLocal "e") " 12 "), .node (.text "7")]
    let r : Sequence := [.atomic (.integer .integer 12), .atomic (.integer .integer 7)]
    v ≠ [] ∧ nodes.hasInstance v ∧ integers.promote .initial .standard none v = .ok r ∧
      nodes.promotable integers := by
  intro nodes integers v r
  have hv : v ≠ [] := by simp [v]
  have hnodes : nodes.hasInstance v := by decide +kernel
  have hpromote : integers.promote .initial .standard none v = .ok r := by with_unfolding_all rfl
  exact ⟨hv, hnodes, hpromote, (promotable_exact hv hnodes hpromote).2 (by decide)⟩

/-- An array of numbers is promoted to doubles and a comment to a string. An element is promoted to an
integer although the target has a test that excludes it, and untyped data to tokens. The prediction denies
all four. -/
theorem promotable_denies_promotion :
    let arrays : SeqType := ItemType.anyArray.single
    let doubles : SeqType := of (.atomic .double) .zeroMore none (by decide)
    let numbers : Sequence := [.array [[.atomic (.integer .integer 1)], [.atomic (.integer .long 2)]]]
    let comments : SeqType := (ItemType.node .comment).single
    let strings : SeqType := (ItemType.atomic .string).single
    let comment : Sequence := [.node (.comment "c")]
    let called : SeqType := of .item .one (some ⟨.element, .localName "a"⟩) (by decide)
    let excluded : SeqType := of (.atomic .integer) .one (some ⟨.element, .localName "b"⟩) (by decide)
    let element : Sequence := [.node (.element (.ofLocal "a") "12")]
    let values : SeqType := (ItemType.atomic .anyAtomic).single
    let tokens : SeqType := of (.atomic .nmtokens) .zeroMore none (by decide)
    let words : Sequence := [.atomic (.untyped "x y")]
    (arrays.hasInstance numbers ∧ (doubles.promote .initial .standard none numbers).isOk ∧
      ¬arrays.promotable doubles) ∧
    (comments.hasInstance comment ∧ (strings.promote .initial .standard none comment).isOk ∧
      ¬comments.promotable strings) ∧
    (called.hasInstance element ∧ (excluded.promote .initial .standard none element).isOk ∧
      ¬called.promotable excluded) ∧
    (values.hasInstance words ∧ (tokens.promote .initial .standard none words).isOk ∧
      ¬values.promotable tokens) := by
  decide +kernel

end SeqType
end SequenceTypes
