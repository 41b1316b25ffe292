import SequenceTypes.Proofs.BaseOrder
import SequenceTypes.Proofs.Fragment

/-! Subtyping as an order. It is reflexive on all types. Tests are compared for overlap, which is not
transitive, and three tests have to meet in one place for a chain to break: a chain holds as soon as one
of its three types is free of tests. On the test-free types subtyping is a partial order. -/

namespace SequenceTypes

namespace ItemType

@[simp] theorem subtypeOf_item (a : ItemType) : a.subtypeOf .item = true := by
  cases a <;> simp [subtypeOf]

theorem item_subtypeOf_iff {b : ItemType} : item.subtypeOf b ↔ b = item := by
  cases b <;> simp [subtypeOf]

theorem map_subtypeOf_iff {k : AtomicType} {v : SeqType} {b : ItemType} :
    (map k v).subtypeOf b ↔ b = item ∨ (∃ l w, b = map l w ∧ k.subtypeOf l ∧ v.subtypeOf w) ∨
      ∃ g, b = function g ∧ (FunctionType.ofMap v).subtypeOf g := by
  cases b <;> simp [subtypeOf, and_assoc]

theorem array_subtypeOf_iff {m : SeqType} {b : ItemType} :
    (array m).subtypeOf b ↔ b = item ∨ (∃ n, b = array n ∧ m.subtypeOf n) ∨
      ∃ g, b = function g ∧ (FunctionType.ofArray m).subtypeOf g := by
  cases b <;> simp [subtypeOf]

theorem subtypeOf_atomic_iff {a : ItemType} {t : AtomicType} :
    a.subtypeOf (atomic t) ↔ ∃ s, a = atomic s ∧ s.subtypeOf t := by
  cases a <;> simp [subtypeOf]

theorem subtypeOf_node_iff {a : ItemType} {k : NodeKind} :
    a.subtypeOf (node k) ↔ ∃ j, a = node j ∧ j.subtypeOf k := by
  cases a <;> simp [subtypeOf]

theorem subtypeOf_map_iff {a : ItemType} {l : AtomicType} {w : SeqType} :
    a.subtypeOf (map l w) ↔ ∃ k v, a = map k v ∧ k.subtypeOf l ∧ v.subtypeOf w := by
  cases a <;> simp [subtypeOf, and_assoc]

theorem subtypeOf_array_iff {a : ItemType} {n : SeqType} :
    a.subtypeOf (array n) ↔ ∃ m, a = array m ∧ m.subtypeOf n := by
  cases a <;> simp [subtypeOf]

end ItemType

namespace FunctionType

@[simp] theorem subtypeOf_any (f : FunctionType) : f.subtypeOf .any = true := by
  cases f <;> simp [subtypeOf]

theorem any_subtypeOf_iff {g : FunctionType} : any.subtypeOf g ↔ g = any := by
  cases g <;> simp [subtypeOf]

theorem of_subtypeOf_iff {ps : List SeqType} {r : SeqType} {g : FunctionType} :
    (of ps r).subtypeOf g ↔
      g = any ∨ ∃ qs s, g = of qs s ∧ SeqType.subtypeOfAll qs ps ∧ r.subtypeOf s := by
  cases g <;> simp [subtypeOf, and_assoc]

end FunctionType

namespace SeqType

theorem empty_subtypeOf_iff {b : SeqType} : empty.subtypeOf b ↔ b.occurrence.lower = 0 := by
  simp [subtypeOf, mayBeZero]

theorem of_subtypeOf_iff {t : ItemType} {o : Occurrence} {k : Option KindTest} {h : o ≠ .zero}
    {b : SeqType} :
    (of t o k h).subtypeOf b ↔
      ∃ u p l hp, b = of u p l hp ∧ t.subtypeOf u ∧ o.subtypeOf p ∧ testsOverlap k l := by
  cases b with
  | empty => simp [subtypeOf, occurrence, Occurrence.not_subtypeOf_zero h]
  | of u p l hp => simp [subtypeOf, itemType, occurrence, test?, and_assoc, hp]

theorem nil_subtypeOfAll_iff {qs : List SeqType} : subtypeOfAll [] qs ↔ qs = [] := by
  cases qs <;> simp [subtypeOfAll]

theorem cons_subtypeOfAll_iff {p : SeqType} {ps qs : List SeqType} :
    subtypeOfAll (p :: ps) qs ↔ ∃ q qs', qs = q :: qs' ∧ p.subtypeOf q ∧ subtypeOfAll ps qs' := by
  cases qs <;> simp [subtypeOfAll, and_assoc]

theorem length_eq_of_subtypeOfAll {ps qs : List SeqType} (h : subtypeOfAll ps qs) :
    ps.length = qs.length := by
  induction ps generalizing qs with
  | nil => rw [nil_subtypeOfAll_iff.1 h]
  | cons p ps ih =>
      obtain ⟨q, qs', rfl, _, htail⟩ := cons_subtypeOfAll_iff.1 h
      rw [List.length_cons, List.length_cons, ih htail]

end SeqType

mutual

theorem ItemType.subtypeOf_refl : (a : ItemType) → a.subtypeOf a = true
  | .item => ItemType.subtypeOf_item _
  | .atomic s => by simp [ItemType.subtypeOf]
  | .node j => by simp [ItemType.subtypeOf]
  | .function f => by
      rw [ItemType.subtypeOf]
      exact f.subtypeOf_refl
  | .map k v => by
      rw [ItemType.subtypeOf, k.subtypeOf_refl, v.subtypeOf_refl]
      rfl
  | .array m => by
      rw [ItemType.subtypeOf]
      exact m.subtypeOf_refl

theorem FunctionType.subtypeOf_refl : (f : FunctionType) → f.subtypeOf f = true
  | .any => FunctionType.subtypeOf_any _
  | .of ps r => by
      rw [FunctionType.subtypeOf, SeqType.subtypeOfAll_refl ps, r.subtypeOf_refl]
      rfl

theorem SeqType.subtypeOf_refl : (a : SeqType) → a.subtypeOf a = true
  | .empty => SeqType.empty_subtypeOf_iff.2 rfl
  | .of t o k h =>
      SeqType.of_subtypeOf_iff.2
        ⟨t, o, k, h, rfl, t.subtypeOf_refl, o.subtypeOf_refl, testsOverlap_self k⟩

theorem SeqType.subtypeOfAll_refl : (ps : List SeqType) → SeqType.subtypeOfAll ps ps = true
  | [] => SeqType.nil_subtypeOfAll_iff.2 rfl
  | p :: ps =>
      SeqType.cons_subtypeOfAll_iff.2 ⟨p, ps, rfl, p.subtypeOf_refl, SeqType.subtypeOfAll_refl ps⟩

end

/-! ### Lookup functions

A map or array type is compared with function types by its lookup function, which is no part of it. What
carries over is the order: the lookup function of a smaller map or array type is smaller. -/

namespace SeqType

/-- The type of a value that may also be absent: the result of a lookup in a map. -/
theorem withOccurrence_optional (s : SeqType) :
    (s = empty ∧ s.withOccurrence (s.occurrence.union .zeroOne) = empty) ∨
      ∃ t o k h h', s = of t o k h ∧
        s.withOccurrence (s.occurrence.union .zeroOne) = of t (o.union .zeroOne) k h' := by
  cases s with
  | empty => exact Or.inl ⟨rfl, rfl⟩
  | of t o k h =>
      have h' : o.union .zeroOne ≠ .zero := by cases o <;> decide
      refine Or.inr ⟨t, o, k, h, h', rfl, ?_⟩
      by_cases heq : o.union .zeroOne = o
      · simp [withOccurrence, occurrence, heq]
      · simp [withOccurrence, occurrence, itemType, test?, make, heq, h, h']

theorem withOccurrence_optional_mono {v w : SeqType} (hvw : v.subtypeOf w) :
    (v.withOccurrence (v.occurrence.union .zeroOne)).subtypeOf
      (w.withOccurrence (w.occurrence.union .zeroOne)) := by
  rcases withOccurrence_optional v with ⟨rfl, hv⟩ | ⟨t, o, k, h, h', rfl, hv⟩
  · rw [hv, empty_subtypeOf_iff]
    rcases withOccurrence_optional w with ⟨rfl, hw⟩ | ⟨u, p, l, hp, hp', rfl, hw⟩
    · rw [hw]
      rfl
    · rw [hw]
      exact Occurrence.lower_union_zeroOne p
  · obtain ⟨u, p, l, hp, rfl, htu, hop, hkl⟩ := of_subtypeOf_iff.1 hvw
    rcases withOccurrence_optional (of u p l hp) with ⟨hw, _⟩ | ⟨u', p', l', hp', hp'', heq, hw⟩
    · cases hw
    · cases heq
      rw [hv, hw]
      exact of_subtypeOf_iff.2
        ⟨u, _, l, hp'', rfl, htu, Occurrence.union_zeroOne_mono hop, hkl⟩

end SeqType

namespace FunctionType

theorem ofMap_mono {v w : SeqType} (hvw : v.subtypeOf w) : (ofMap v).subtypeOf (ofMap w) :=
  of_subtypeOf_iff.2 (Or.inr ⟨_, _, rfl, SeqType.subtypeOfAll_refl _,
    SeqType.withOccurrence_optional_mono hvw⟩)

theorem ofArray_mono {m n : SeqType} (hmn : m.subtypeOf n) : (ofArray m).subtypeOf (ofArray n) :=
  of_subtypeOf_iff.2 (Or.inr ⟨_, _, rfl, SeqType.subtypeOfAll_refl _, hmn⟩)

end FunctionType

namespace ItemType

/-- An item type seen as a function type: the lookup function, for maps and arrays. -/
def asFunction? : ItemType → Option FunctionType
  | .function f => some f
  | .map _ v => some (.ofMap v)
  | .array m => some (.ofArray m)
  | _ => none

variable {a b : ItemType} {f g : FunctionType}

theorem subtypeOf_function_iff :
    a.subtypeOf (function g) ↔ ∃ f, a.asFunction? = some f ∧ f.subtypeOf g := by
  cases a <;> simp [subtypeOf, asFunction?]

theorem asFunction?_mono (hab : a.subtypeOf b) (hb : b.asFunction? = some g) :
    ∃ f, a.asFunction? = some f ∧ f.subtypeOf g := by
  cases b with
  | item | atomic _ | node _ => cases hb
  | function h =>
      cases hb
      exact subtypeOf_function_iff.1 hab
  | map l w =>
      cases hb
      obtain ⟨k, v, rfl, _, hvw⟩ := subtypeOf_map_iff.1 hab
      exact ⟨.ofMap v, rfl, FunctionType.ofMap_mono hvw⟩
  | array n =>
      cases hb
      obtain ⟨m, rfl, hmn⟩ := subtypeOf_array_iff.1 hab
      exact ⟨.ofArray m, rfl, FunctionType.ofArray_mono hmn⟩

theorem weight_asFunction?_le (ha : a.asFunction? = some f) : f.weight ≤ a.weight := by
  cases a with
  | item | atomic _ | node _ => cases ha
  | function g =>
      cases ha
      simp only [weight]
      omega
  | map k v =>
      cases ha
      have hv := FunctionType.weight_ofMap_le v
      simp only [weight]
      omega
  | array m =>
      cases ha
      have hm := FunctionType.weight_ofArray m
      simp only [weight]
      omega

theorem asFunction?_testFree (ha : a.asFunction? = some f) (hfree : a.within .testFree) :
    f.within .testFree := by
  cases a with
  | item | atomic _ | node _ => cases ha
  | function g =>
      cases ha
      simpa [within] using hfree
  | map k v =>
      cases ha
      exact FunctionType.ofMap_testFree (by simpa [within] using hfree)
  | array m =>
      cases ha
      exact FunctionType.ofArray_testFree (by simpa [within] using hfree)

theorem subtypeOf_any_of_isFunction (ha : a.isFunction) : a.subtypeOf (.function .any) := by
  cases a <;> simp_all [isFunction, subtypeOf]

theorem isFunction_of_subtypeOf (hb : b.isFunction) (hab : a.subtypeOf b) : a.isFunction := by
  cases a <;> cases b <;> simp_all [isFunction, subtypeOf]

end ItemType

theorem testsOverlap_trans {k l m : Option KindTest} (hfree : k = none ∨ l = none ∨ m = none)
    (hkl : testsOverlap k l) (hlm : testsOverlap l m) : testsOverlap k m := by
  have hm : m = none := by
    rcases hfree with rfl | rfl | rfl
    · rw [testsOverlap_none_left hkl] at hlm
      exact testsOverlap_none_left hlm
    · exact testsOverlap_none_left hlm
    · rfl
  rw [hm]
  exact testsOverlap_none k

/-- Transitivity for item types of a total weight below `n`, one of which is free of tests. The bound is on
the weight because a map is compared with a function by its lookup function. -/
def TransBelow (n : Nat) : Prop :=
  ∀ a b c : ItemType, a.weight + b.weight + c.weight < n →
    a.within .testFree ∨ b.within .testFree ∨ c.within .testFree →
    a.subtypeOf b → b.subtypeOf c → a.subtypeOf c

namespace TransBelow

variable {n : Nat}

theorem seq (ih : TransBelow n) {a b c : SeqType} (hn : a.weight + b.weight + c.weight ≤ n)
    (hfree : a.within .testFree ∨ b.within .testFree ∨ c.within .testFree)
    (hab : a.subtypeOf b) (hbc : b.subtypeOf c) : a.subtypeOf c := by
  cases a with
  | empty =>
      rw [SeqType.empty_subtypeOf_iff] at hab ⊢
      cases b with
      | empty => exact SeqType.empty_subtypeOf_iff.1 hbc
      | of u p l hp =>
          obtain ⟨w, q, m, hq, rfl, _, hpq, _⟩ := SeqType.of_subtypeOf_iff.1 hbc
          have hlower := (Occurrence.subtypeOf_iff.1 hpq).1
          simp only [SeqType.occurrence] at hab ⊢
          omega
  | of t o k h =>
      obtain ⟨u, p, l, hp, rfl, htu, hop, hkl⟩ := SeqType.of_subtypeOf_iff.1 hab
      obtain ⟨w, q, m, hq, rfl, huw, hpq, hlm⟩ := SeqType.of_subtypeOf_iff.1 hbc
      simp only [SeqType.within, Fragment.testFree_test, Bool.and_eq_true,
        Option.isNone_iff_eq_none] at hfree
      simp only [SeqType.weight] at hn
      have htw := ih t u w (by omega) (hfree.imp And.right (Or.imp And.right And.right)) htu huw
      have hkm := testsOverlap_trans (hfree.imp And.left (Or.imp And.left And.left)) hkl hlm
      exact SeqType.of_subtypeOf_iff.2
        ⟨w, q, m, hq, rfl, htw, Occurrence.subtypeOf_trans hop hpq, hkm⟩

theorem all (ih : TransBelow n) {ps qs us : List SeqType}
    (hn : SeqType.weightAll ps + SeqType.weightAll qs + SeqType.weightAll us ≤ n)
    (hfree : SeqType.allWithin .testFree ps ∨ SeqType.allWithin .testFree qs ∨
      SeqType.allWithin .testFree us)
    (hpq : SeqType.subtypeOfAll ps qs) (hqu : SeqType.subtypeOfAll qs us) :
    SeqType.subtypeOfAll ps us := by
  induction ps generalizing qs us with
  | nil =>
      obtain rfl := SeqType.nil_subtypeOfAll_iff.1 hpq
      exact hqu
  | cons p ps ihps =>
      obtain ⟨q, qs, rfl, hp, hps⟩ := SeqType.cons_subtypeOfAll_iff.1 hpq
      obtain ⟨u, us, rfl, hq, hqs⟩ := SeqType.cons_subtypeOfAll_iff.1 hqu
      simp only [SeqType.allWithin, Bool.and_eq_true] at hfree
      simp only [SeqType.weightAll] at hn
      have hhead := ih.seq (by omega) (hfree.imp And.left (Or.imp And.left And.left)) hp hq
      have htail := ihps (by omega) (hfree.imp And.right (Or.imp And.right And.right)) hps hqs
      exact SeqType.cons_subtypeOfAll_iff.2 ⟨u, us, rfl, hhead, htail⟩

theorem function (ih : TransBelow n) {f g h : FunctionType} (hn : f.weight + g.weight + h.weight ≤ n)
    (hfree : f.within .testFree ∨ g.within .testFree ∨ h.within .testFree)
    (hfg : f.subtypeOf g) (hgh : g.subtypeOf h) : f.subtypeOf h := by
  cases f with
  | any =>
      obtain rfl := FunctionType.any_subtypeOf_iff.1 hfg
      exact hgh
  | of ps r =>
      rcases FunctionType.of_subtypeOf_iff.1 hfg with rfl | ⟨qs, s, rfl, hqp, hrs⟩
      · obtain rfl := FunctionType.any_subtypeOf_iff.1 hgh
        exact FunctionType.subtypeOf_any _
      · rcases FunctionType.of_subtypeOf_iff.1 hgh with rfl | ⟨us, t, rfl, huq, hst⟩
        · exact FunctionType.subtypeOf_any _
        · simp only [FunctionType.within, Bool.and_eq_true] at hfree
          simp only [FunctionType.weight] at hn
          -- parameters run the other way: the chain is read from `us` to `ps`
          have hparams : SeqType.allWithin .testFree us ∨ SeqType.allWithin .testFree qs ∨
              SeqType.allWithin .testFree ps := by
            rcases hfree with h | h | h
            · exact Or.inr (Or.inr h.1)
            · exact Or.inr (Or.inl h.1)
            · exact Or.inl h.1
          have hup := ih.all (by omega) hparams huq hqp
          have hrt := ih.seq (by omega) (hfree.imp And.right (Or.imp And.right And.right)) hrs hst
          exact FunctionType.of_subtypeOf_iff.2 (Or.inr ⟨us, t, rfl, hup, hrt⟩)

theorem item (ih : TransBelow n) {a b c : ItemType} (hn : a.weight + b.weight + c.weight ≤ n)
    (hfree : a.within .testFree ∨ b.within .testFree ∨ c.within .testFree)
    (hab : a.subtypeOf b) (hbc : b.subtypeOf c) : a.subtypeOf c := by
  cases c with
  | item => exact ItemType.subtypeOf_item a
  | atomic u =>
      obtain ⟨t, rfl, htu⟩ := ItemType.subtypeOf_atomic_iff.1 hbc
      obtain ⟨s, rfl, hst⟩ := ItemType.subtypeOf_atomic_iff.1 hab
      exact ItemType.subtypeOf_atomic_iff.2 ⟨s, rfl, AtomicType.subtypeOf_trans hst htu⟩
  | node k =>
      obtain ⟨j, rfl, hjk⟩ := ItemType.subtypeOf_node_iff.1 hbc
      obtain ⟨i, rfl, hij⟩ := ItemType.subtypeOf_node_iff.1 hab
      exact ItemType.subtypeOf_node_iff.2 ⟨i, rfl, NodeKind.subtypeOf_trans hij hjk⟩
  | function h =>
      obtain ⟨g, hg, hgh⟩ := ItemType.subtypeOf_function_iff.1 hbc
      obtain ⟨f, hf, hfg⟩ := ItemType.asFunction?_mono hab hg
      have hfree' := hfree.imp (ItemType.asFunction?_testFree hf)
        (Or.imp (ItemType.asFunction?_testFree hg) (ItemType.asFunction?_testFree rfl))
      have hwf := ItemType.weight_asFunction?_le hf
      have hwg := ItemType.weight_asFunction?_le hg
      have hwh := ItemType.weight_asFunction?_le (a := .function h) rfl
      have hfh := ih.function (by omega) hfree' hfg hgh
      exact ItemType.subtypeOf_function_iff.2 ⟨f, hf, hfh⟩
  | map m x =>
      obtain ⟨l, w, rfl, hlm, hwx⟩ := ItemType.subtypeOf_map_iff.1 hbc
      obtain ⟨k, v, rfl, hkl, hvw⟩ := ItemType.subtypeOf_map_iff.1 hab
      simp only [ItemType.within, Fragment.testFree_item, Bool.true_and] at hfree
      simp only [ItemType.weight] at hn
      have hvx := ih.seq (by omega) hfree hvw hwx
      exact ItemType.subtypeOf_map_iff.2 ⟨k, v, rfl, AtomicType.subtypeOf_trans hkl hlm, hvx⟩
  | array p =>
      obtain ⟨o, rfl, hop⟩ := ItemType.subtypeOf_array_iff.1 hbc
      obtain ⟨m, rfl, hmo⟩ := ItemType.subtypeOf_array_iff.1 hab
      simp only [ItemType.within, Fragment.testFree_item, Bool.true_and] at hfree
      simp only [ItemType.weight] at hn
      exact ItemType.subtypeOf_array_iff.2 ⟨m, rfl, ih.seq (by omega) hfree hmo hop⟩

end TransBelow

theorem transBelow (n : Nat) : TransBelow n := by
  induction n with
  | zero => intro a b c hn; omega
  | succ n ih => exact fun a b c hn => ih.item (Nat.le_of_lt_succ hn)

/-- A chain of item types holds if one of the three is free of tests. -/
theorem ItemType.subtypeOf_trans {a b c : ItemType}
    (hfree : a.within .testFree ∨ b.within .testFree ∨ c.within .testFree)
    (hab : a.subtypeOf b) (hbc : b.subtypeOf c) : a.subtypeOf c :=
  transBelow _ a b c (Nat.lt_succ_self _) hfree hab hbc

/-- A chain of function types holds if one of the three is free of tests. -/
theorem FunctionType.subtypeOf_trans {f g h : FunctionType}
    (hfree : f.within .testFree ∨ g.within .testFree ∨ h.within .testFree)
    (hfg : f.subtypeOf g) (hgh : g.subtypeOf h) : f.subtypeOf h :=
  (transBelow _).function (Nat.le_refl _) hfree hfg hgh

/-- A chain of sequence types holds if one of the three is free of tests. -/
theorem SeqType.subtypeOf_trans {a b c : SeqType}
    (hfree : a.within .testFree ∨ b.within .testFree ∨ c.within .testFree)
    (hab : a.subtypeOf b) (hbc : b.subtypeOf c) : a.subtypeOf c :=
  (transBelow _).seq (Nat.le_refl _) hfree hab hbc

mutual

theorem ItemType.subtypeOf_antisymm : {a b : ItemType} → a.within .testFree → a.subtypeOf b →
    b.subtypeOf a → a = b
  | .item, _, _, hab, _ => (ItemType.item_subtypeOf_iff.1 hab).symm
  | .atomic s, b, _, hab, hba => by
      obtain ⟨t, rfl, hts⟩ := ItemType.subtypeOf_atomic_iff.1 hba
      rw [ItemType.subtypeOf] at hab
      rw [AtomicType.subtypeOf_antisymm hab hts]
  | .node j, b, _, hab, hba => by
      obtain ⟨k, rfl, hkj⟩ := ItemType.subtypeOf_node_iff.1 hba
      rw [ItemType.subtypeOf] at hab
      rw [NodeKind.subtypeOf_antisymm hab hkj]
  | .function f, b, hfree, hab, hba => by
      cases b with
      | function g =>
          simp only [ItemType.within, Fragment.testFree_item, Bool.true_and] at hfree
          rw [ItemType.subtypeOf] at hab hba
          rw [FunctionType.subtypeOf_antisymm hfree hab hba]
      | _ => simp [ItemType.subtypeOf] at hab hba
  | .map k v, b, hfree, hab, hba => by
      obtain ⟨l, w, rfl, hlk, hwv⟩ := ItemType.subtypeOf_map_iff.1 hba
      simp only [ItemType.within, Fragment.testFree_item, Bool.true_and] at hfree
      rw [ItemType.subtypeOf, Bool.and_eq_true] at hab
      rw [AtomicType.subtypeOf_antisymm hab.1 hlk, SeqType.subtypeOf_antisymm hfree hab.2 hwv]
  | .array m, b, hfree, hab, hba => by
      obtain ⟨o, rfl, hom⟩ := ItemType.subtypeOf_array_iff.1 hba
      simp only [ItemType.within, Fragment.testFree_item, Bool.true_and] at hfree
      rw [ItemType.subtypeOf] at hab
      rw [SeqType.subtypeOf_antisymm hfree hab hom]

theorem FunctionType.subtypeOf_antisymm : {f g : FunctionType} → f.within .testFree →
    f.subtypeOf g → g.subtypeOf f → f = g
  | .any, _, _, hfg, _ => (FunctionType.any_subtypeOf_iff.1 hfg).symm
  | .of ps r, g, hfree, hfg, hgf => by
      cases g with
      | any => simp [FunctionType.subtypeOf] at hgf
      | of qs s =>
          simp only [FunctionType.within, Bool.and_eq_true] at hfree
          simp only [FunctionType.subtypeOf, Bool.and_eq_true] at hfg hgf
          rw [SeqType.subtypeOfAll_antisymm hfree.1 hgf.1 hfg.1,
            SeqType.subtypeOf_antisymm hfree.2 hfg.2 hgf.2]

theorem SeqType.subtypeOf_antisymm : {a b : SeqType} → a.within .testFree → a.subtypeOf b →
    b.subtypeOf a → a = b
  | .empty, b, _, _, hba => by
      cases b with
      | empty => rfl
      | of u p l hp =>
          obtain ⟨_, _, _, _, heq, _⟩ := SeqType.of_subtypeOf_iff.1 hba
          cases heq
  | .of t o k h, b, hfree, hab, hba => by
      obtain ⟨u, p, l, hp, rfl, htu, hop, hkl⟩ := SeqType.of_subtypeOf_iff.1 hab
      obtain ⟨_, _, _, _, heq, hut, hpo, hlk⟩ := SeqType.of_subtypeOf_iff.1 hba
      cases heq
      simp only [SeqType.within, Fragment.testFree_test, Bool.and_eq_true,
        Option.isNone_iff_eq_none] at hfree
      obtain ⟨rfl, ht⟩ := hfree
      obtain rfl := testsOverlap_none_left hkl
      obtain rfl := Occurrence.subtypeOf_antisymm hop hpo
      obtain rfl := ItemType.subtypeOf_antisymm ht htu hut
      rfl

theorem SeqType.subtypeOfAll_antisymm : {ps qs : List SeqType} → SeqType.allWithin .testFree ps →
    SeqType.subtypeOfAll ps qs → SeqType.subtypeOfAll qs ps → ps = qs
  | [], _, _, hpq, _ => (SeqType.nil_subtypeOfAll_iff.1 hpq).symm
  | p :: ps, qs, hfree, hpq, hqp => by
      obtain ⟨q, qs, rfl, hp, hps⟩ := SeqType.cons_subtypeOfAll_iff.1 hpq
      simp only [SeqType.subtypeOfAll, Bool.and_eq_true] at hqp
      simp only [SeqType.allWithin, Bool.and_eq_true] at hfree
      rw [SeqType.subtypeOf_antisymm hfree.1 hp hqp.1,
        SeqType.subtypeOfAll_antisymm hfree.2 hps hqp.2]

end

/-! ### Partial order

The order is stated up to the equality of types, which looks through the prefixes of names. -/

mutual

theorem ItemType.beq_refl : (a : ItemType) → a.beq a = true
  | .item => by rw [ItemType.beq]
  | .atomic _ => by simp [ItemType.beq]
  | .node _ => by simp [ItemType.beq]
  | .function f => by
      rw [ItemType.beq]
      exact f.beq_refl
  | .map k v => by
      rw [ItemType.beq, v.beq_refl]
      simp
  | .array m => by
      rw [ItemType.beq]
      exact m.beq_refl

theorem FunctionType.beq_refl : (f : FunctionType) → f.beq f = true
  | .any => by rw [FunctionType.beq]
  | .of ps r => by
      rw [FunctionType.beq, SeqType.beqAll_refl ps, r.beq_refl]
      rfl

theorem SeqType.beq_refl : (a : SeqType) → a.beq a = true
  | .empty => by rw [SeqType.beq]
  | .of t o k h => by
      rw [SeqType.beq, t.beq_refl]
      simp

theorem SeqType.beqAll_refl : (ps : List SeqType) → SeqType.beqAll ps ps = true
  | [] => by rw [SeqType.beqAll]
  | p :: ps => by
      rw [SeqType.beqAll, p.beq_refl, SeqType.beqAll_refl ps]
      rfl

end

instance : ReflBEq ItemType := ⟨fun {a} => a.beq_refl⟩

instance : ReflBEq SeqType := ⟨fun {a} => a.beq_refl⟩

/-- Subtyping is reflexive on all types, and transitive and antisymmetric on the test-free ones, for
sequence types and for item types. -/
theorem subtypeOf_partial_order :
    (∀ a : SeqType, a.subtypeOf a) ∧
    (∀ a b c : SeqType, a.within .testFree → b.within .testFree → c.within .testFree →
      a.subtypeOf b → b.subtypeOf c → a.subtypeOf c) ∧
    (∀ a b : SeqType, a.within .testFree → b.within .testFree →
      a.subtypeOf b → b.subtypeOf a → a == b) ∧
    (∀ t : ItemType, t.subtypeOf t) ∧
    (∀ t u w : ItemType, t.within .testFree → u.within .testFree → w.within .testFree →
      t.subtypeOf u → u.subtypeOf w → t.subtypeOf w) ∧
    (∀ t u : ItemType, t.within .testFree → u.within .testFree →
      t.subtypeOf u → u.subtypeOf t → t == u) := by
  refine ⟨SeqType.subtypeOf_refl, ?_, ?_, ItemType.subtypeOf_refl, ?_, ?_⟩
  · intro a b c ha _ _ hab hbc
    exact SeqType.subtypeOf_trans (Or.inl ha) hab hbc
  · intro a b ha _ hab hba
    rw [SeqType.subtypeOf_antisymm ha hab hba]
    exact beq_self_eq_true b
  · intro t u w ht _ _ htu huw
    exact ItemType.subtypeOf_trans (Or.inl ht) htu huw
  · intro t u ht _ htu hut
    rw [ItemType.subtypeOf_antisymm ht htu hut]
    exact beq_self_eq_true u

/-- A map of integers is a function from strings to decimals, by way of its lookup function. -/
theorem map_subtypeOf_function_by_lookup :
    (ItemType.map .integer (ItemType.atomic .integer).single).subtypeOf
      (.function (.of [(ItemType.atomic .string).single]
        (.of (.atomic .decimal) .zeroMore none (by decide)))) :=
  subtypeOf_partial_order.2.2.2.2.1 _ (.function (.ofMap (ItemType.atomic .integer).single)) _
    (by decide) (by decide) (by decide) (by decide +kernel) (by decide +kernel)

end SequenceTypes
