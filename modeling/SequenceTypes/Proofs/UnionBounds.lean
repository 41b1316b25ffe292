import SequenceTypes.Proofs.BaseLattice
import SequenceTypes.Proofs.StaticCover

/-! Where a union covers both types, and where an intersection lies below both. Neither always does. An
intersection takes a map or array type for one that a function type of one parameter covers, whatever that
function type says; a union of functions intersects their parameters and inherits this. And a union of
maps whose keys have no common ancestor falls back to keys of `xs:anyAtomicType`, which does not cover the
list type. The conditions below say where none of this happens, and they are exact. -/

namespace SequenceTypes

mutual

/-- Whether the union of two item types is sound: maps need keys with a common ancestor. -/
def ItemType.unionCovers (a b : ItemType) : Bool :=
  a.subtypeOf b || b.subtypeOf a ||
    match a, b with
    | .map k v, .map l w => (k.union? l).isSome && v.unionCovers w
    | .array m, .array n => m.unionCovers n
    | .function f, .function g => f.unionCovers g
    | _, _ => true
termination_by a.weight + b.weight
decreasing_by all_goals simp only [ItemType.weight]; omega

/-- Whether the intersection of two item types is sound, if there is one. A map or array type must not be
met by a function type that does not cover it. -/
def ItemType.intersectFits (a b : ItemType) : Bool :=
  a.subtypeOf b || b.subtypeOf a ||
    match a, b with
    | .map _ v, .map _ w => v.intersectFits w
    | .array m, .array n => m.intersectFits n
    | .function f, .function g => f.intersectFits g
    | _, _ => false
termination_by a.weight + b.weight
decreasing_by all_goals simp only [ItemType.weight]; omega

/-- Whether the union of two function types is sound: their parameters are intersected. -/
def FunctionType.unionCovers : FunctionType → FunctionType → Bool
  | .of ps r, .of qs s =>
    (SeqType.intersectAll? ps qs).isNone || (SeqType.intersectAllFit ps qs && r.unionCovers s)
  | _, _ => true
termination_by f g => f.weight + g.weight
decreasing_by all_goals simp only [FunctionType.weight]; omega

/-- Whether the intersection of two function types is sound: their parameters are united. -/
def FunctionType.intersectFits : FunctionType → FunctionType → Bool
  | .of ps r, .of qs s => SeqType.unionAllCover ps qs && r.intersectFits s
  | _, _ => true
termination_by f g => f.weight + g.weight
decreasing_by all_goals simp only [FunctionType.weight]; omega

def SeqType.unionCovers : SeqType → SeqType → Bool
  | .of t _ _ _, .of u _ _ _ => t.unionCovers u
  | _, _ => true
termination_by a b => a.weight + b.weight
decreasing_by simp only [SeqType.weight]; omega

def SeqType.intersectFits : SeqType → SeqType → Bool
  | .of t _ _ _, .of u _ _ _ => t.intersectFits u
  | _, _ => true
termination_by a b => a.weight + b.weight
decreasing_by simp only [SeqType.weight]; omega

def SeqType.unionAllCover : List SeqType → List SeqType → Bool
  | p :: ps, q :: qs => p.unionCovers q && SeqType.unionAllCover ps qs
  | _, _ => true
termination_by ps qs => SeqType.weightAll ps + SeqType.weightAll qs
decreasing_by all_goals simp only [SeqType.weightAll]; omega

def SeqType.intersectAllFit : List SeqType → List SeqType → Bool
  | p :: ps, q :: qs => p.intersectFits q && SeqType.intersectAllFit ps qs
  | _, _ => true
termination_by ps qs => SeqType.weightAll ps + SeqType.weightAll qs
decreasing_by all_goals simp only [SeqType.weightAll]; omega

end

/-- The keys of a union of maps cover both keys exactly if these have a common ancestor. -/
theorem AtomicType.subtypeOf_getD_union?_iff {a b : AtomicType} :
    (a.subtypeOf ((a.union? b).getD .anyAtomic) ∧ b.subtypeOf ((a.union? b).getD .anyAtomic)) ↔
      (a.union? b).isSome := by
  cases h : a.union? b with
  | none => simpa using not_subtypeOf_of_union?_none h
  | some c => simpa using subtypeOf_union? h

namespace ItemType

/-- The ways in which a union of item types comes about. -/
inductive UnionShape : ItemType → ItemType → ItemType → Prop where
  | below {a b : ItemType} (hab : a.subtypeOf b) : UnionShape a b b
  | above {a b : ItemType} (hab : ¬a.subtypeOf b) (hba : b.subtypeOf a) : UnionShape a b a
  | atomic {s t : AtomicType} : UnionShape (.atomic s) (.atomic t) ((s.union? t).elim .item .atomic)
  | node {j k : NodeKind} (hjk : ¬j.subtypeOf k) (hkj : ¬k.subtypeOf j) :
      UnionShape (.node j) (.node k) (.node .any)
  | map {k l : AtomicType} {v w : SeqType} (hab : ¬(map k v).subtypeOf (map l w))
      (hba : ¬(map l w).subtypeOf (map k v)) :
      UnionShape (.map k v) (.map l w) (.map ((k.union? l).getD .anyAtomic) (v.union w))
  | array {m n : SeqType} (hmn : ¬m.subtypeOf n) (hnm : ¬n.subtypeOf m) :
      UnionShape (.array m) (.array n) (.array (m.union n))
  | function {f g : FunctionType} (hfg : ¬f.subtypeOf g) (hgf : ¬g.subtypeOf f) :
      UnionShape (.function f) (.function g) (.function (f.union g))
  | apart {a b : ItemType} (hab : ¬a.subtypeOf b) (hba : ¬b.subtypeOf a)
      (hatomic : ∀ s t, a = .atomic s → b ≠ .atomic t) (hnode : ∀ j k, a = .node j → b ≠ .node k)
      (hmap : ∀ k v l w, a = .map k v → b ≠ .map l w) (harray : ∀ m n, a = .array m → b ≠ .array n)
      (hfunction : ∀ f g, a = .function f → b ≠ .function g) :
      UnionShape a b (if a.isFunction && b.isFunction then .function .any else .item)

theorem unionShape {a b c : ItemType} (h : a.union b = c) : UnionShape a b c := by
  subst h
  by_cases hab : a.subtypeOf b
  · rw [union_of_subtypeOf hab]
    exact .below hab
  by_cases hba : b.subtypeOf a
  · rw [union_of_supertype hab hba]
    exact .above hab hba
  rw [union.eq_def, if_neg hab, if_neg hba]
  split
  · exact .atomic
  · rw [subtypeOf] at hab hba
    exact .node hab hba
  · exact .map hab hba
  · rw [subtypeOf] at hab hba
    exact .array hab hba
  · rw [subtypeOf] at hab hba
    exact .function hab hba
  · next hatomic hnode hmap harray hfunction =>
      exact .apart hab hba hatomic hnode hmap harray hfunction

/-- The ways in which an intersection of item types comes about. In the last two a map or array type is
taken although the function type does not cover it. -/
inductive IntersectShape : ItemType → ItemType → ItemType → Prop where
  | below {a b : ItemType} (hab : a.subtypeOf b) : IntersectShape a b a
  | above {a b : ItemType} (hab : ¬a.subtypeOf b) (hba : b.subtypeOf a) : IntersectShape a b b
  | map {k l key : AtomicType} {v w value : SeqType} (hab : ¬(map k v).subtypeOf (map l w))
      (hba : ¬(map l w).subtypeOf (map k v)) (hkey : k.intersect? l = some key)
      (hvalue : v.intersect? w = some value) : IntersectShape (.map k v) (.map l w) (.map key value)
  | array {m n i : SeqType} (hmn : ¬m.subtypeOf n) (hnm : ¬n.subtypeOf m)
      (hi : m.intersect? n = some i) : IntersectShape (.array m) (.array n) (.array i)
  | function {f g i : FunctionType} (hfg : ¬f.subtypeOf g) (hgf : ¬g.subtypeOf f)
      (hi : f.intersect? g = some i) : IntersectShape (.function f) (.function g) (.function i)
  | lookupLeft {a : ItemType} {f : FunctionType} (hab : ¬a.subtypeOf (.function f))
      (ha : a.lookup?.isSome) (hf : f.arity? = some 1) : IntersectShape a (.function f) a
  | lookupRight {b : ItemType} {f : FunctionType} (hba : ¬b.subtypeOf (.function f))
      (hb : b.lookup?.isSome) (hf : f.arity? = some 1) : IntersectShape (.function f) b b

theorem intersectShape {a b m : ItemType} (h : a.intersect? b = some m) : IntersectShape a b m := by
  rw [intersect?.eq_def] at h
  split at h
  · next hab =>
      cases h
      exact .below hab
  next hab =>
  split at h
  · next hba =>
      cases h
      exact .above hab hba
  next hba =>
  split at h
  · rw [subtypeOf] at hab hba
    simp [AtomicType.intersect?, hab, hba] at h
  · obtain ⟨i, hi, rfl⟩ := Option.map_eq_some_iff.1 h
    rw [subtypeOf] at hab hba
    exact .function hab hba hi
  · obtain ⟨key, hkey, h⟩ := Option.bind_eq_some_iff.1 h
    obtain ⟨value, hvalue, rfl⟩ := Option.map_eq_some_iff.1 h
    exact .map hab hba hkey hvalue
  · obtain ⟨i, hi, rfl⟩ := Option.map_eq_some_iff.1 h
    rw [subtypeOf] at hab hba
    exact .array hab hba hi
  · obtain ⟨hf, heq⟩ := Option.ite_none_right_eq_some.1 h
    cases heq
    exact .lookupLeft hab rfl hf
  · obtain ⟨hf, heq⟩ := Option.ite_none_right_eq_some.1 h
    cases heq
    exact .lookupLeft hab rfl hf
  · obtain ⟨hf, heq⟩ := Option.ite_none_right_eq_some.1 h
    cases heq
    exact .lookupRight hba rfl hf
  · obtain ⟨hf, heq⟩ := Option.ite_none_right_eq_some.1 h
    cases heq
    exact .lookupRight hba rfl hf
  · cases h

theorem isSome_intersect?_of_comparable {a b : ItemType} (h : a.subtypeOf b ∨ b.subtypeOf a) :
    (a.intersect? b).isSome := by
  rw [intersect?.eq_def]
  by_cases hab : a.subtypeOf b
  · rw [if_pos hab]
    rfl
  · rw [if_neg hab, if_pos (h.resolve_left hab)]
    rfl

theorem unionCovers_of_comparable {a b : ItemType} (h : a.subtypeOf b ∨ b.subtypeOf a) :
    a.unionCovers b := by
  rw [unionCovers.eq_def]
  rcases h with h | h <;> simp [h]

theorem intersectFits_of_comparable {a b : ItemType} (h : a.subtypeOf b ∨ b.subtypeOf a) :
    a.intersectFits b := by
  rw [intersectFits.eq_def]
  rcases h with h | h <;> simp [h]

theorem intersectFits_lookup {a : ItemType} {f : FunctionType} (ha : a.lookup?.isSome)
    (hab : ¬a.subtypeOf (.function f)) :
    a.intersectFits (.function f) = false ∧ (function f).intersectFits a = false := by
  cases a with
  | map k v => simp [intersectFits, hab, subtypeOf]
  | array m => simp [intersectFits, hab, subtypeOf]
  | _ => cases ha

end ItemType

/-! ### Equal types

Equal types differ in the prefixes of names at most, and are subtypes of each other. -/

theorem testsOverlap_of_beq {k l : Option KindTest} (h : k == l) :
    testsOverlap k l ∧ testsOverlap l k := by
  cases k <;> cases l <;> try cases h
  case none.none => exact ⟨rfl, rfl⟩
  case some.some s t => exact KindTest.isSome_intersect?_of_beq h

theorem SeqType.of_subtypeOf_of_iff {t u : ItemType} {o p : Occurrence} {k l : Option KindTest}
    {ho : o ≠ .zero} {hp : p ≠ .zero} :
    (of t o k ho).subtypeOf (of u p l hp) ↔ t.subtypeOf u ∧ o.subtypeOf p ∧ testsOverlap k l := by
  rw [SeqType.subtypeOf, Bool.and_eq_true, Bool.and_eq_true, and_assoc]
  rfl

mutual

theorem ItemType.subtypeOf_of_beq : {a b : ItemType} → a.beq b → a.subtypeOf b ∧ b.subtypeOf a
  | .item, b, h => by
      cases b with
      | item => exact ⟨ItemType.subtypeOf_item _, ItemType.subtypeOf_item _⟩
      | _ => simp [ItemType.beq] at h
  | .atomic s, b, h => by
      cases b with
      | atomic t =>
          obtain rfl : s = t := by simpa [ItemType.beq] using h
          exact ⟨ItemType.subtypeOf_refl _, ItemType.subtypeOf_refl _⟩
      | _ => simp [ItemType.beq] at h
  | .node j, b, h => by
      cases b with
      | node k =>
          obtain rfl : j = k := by simpa [ItemType.beq] using h
          exact ⟨ItemType.subtypeOf_refl _, ItemType.subtypeOf_refl _⟩
      | _ => simp [ItemType.beq] at h
  | .function f, b, h => by
      cases b with
      | function g =>
          rw [ItemType.beq] at h
          rw [ItemType.subtypeOf, ItemType.subtypeOf]
          exact FunctionType.subtypeOf_of_beq h
      | _ => simp [ItemType.beq] at h
  | .map k v, b, h => by
      cases b with
      | map l w =>
          rw [ItemType.beq, Bool.and_eq_true, decide_eq_true_eq] at h
          obtain ⟨rfl, hvw⟩ := h
          obtain ⟨hsub, hsup⟩ := SeqType.subtypeOf_of_beq hvw
          rw [ItemType.subtypeOf, ItemType.subtypeOf, hsub, hsup, k.subtypeOf_refl]
          exact ⟨rfl, rfl⟩
      | _ => simp [ItemType.beq] at h
  | .array m, b, h => by
      cases b with
      | array n =>
          rw [ItemType.beq] at h
          rw [ItemType.subtypeOf, ItemType.subtypeOf]
          exact SeqType.subtypeOf_of_beq h
      | _ => simp [ItemType.beq] at h

theorem FunctionType.subtypeOf_of_beq : {f g : FunctionType} → f.beq g → f.subtypeOf g ∧ g.subtypeOf f
  | .any, g, h => by
      cases g with
      | any => exact ⟨FunctionType.subtypeOf_any _, FunctionType.subtypeOf_any _⟩
      | of qs s => simp [FunctionType.beq] at h
  | .of ps r, g, h => by
      cases g with
      | any => simp [FunctionType.beq] at h
      | of qs s =>
          rw [FunctionType.beq, Bool.and_eq_true] at h
          obtain ⟨hpq, hqp⟩ := SeqType.subtypeOfAll_of_beqAll h.1
          obtain ⟨hrs, hsr⟩ := SeqType.subtypeOf_of_beq h.2
          rw [FunctionType.subtypeOf, FunctionType.subtypeOf, hpq, hqp, hrs, hsr]
          exact ⟨rfl, rfl⟩

theorem SeqType.subtypeOf_of_beq : {a b : SeqType} → a.beq b → a.subtypeOf b ∧ b.subtypeOf a
  | .empty, b, h => by
      cases b with
      | empty => exact ⟨SeqType.subtypeOf_refl _, SeqType.subtypeOf_refl _⟩
      | of u p l hp => simp [SeqType.beq] at h
  | .of t o k ho, b, h => by
      cases b with
      | empty => simp [SeqType.beq] at h
      | of u p l hp =>
          rw [SeqType.beq, Bool.and_eq_true, Bool.and_eq_true, decide_eq_true_eq] at h
          obtain ⟨⟨rfl, htu⟩, hkl⟩ := h
          obtain ⟨hsub, hsup⟩ := ItemType.subtypeOf_of_beq htu
          obtain ⟨hover, hover'⟩ := testsOverlap_of_beq hkl
          exact ⟨SeqType.of_subtypeOf_of_iff.2 ⟨hsub, o.subtypeOf_refl, hover⟩,
            SeqType.of_subtypeOf_of_iff.2 ⟨hsup, o.subtypeOf_refl, hover'⟩⟩

theorem SeqType.subtypeOfAll_of_beqAll : {ps qs : List SeqType} → SeqType.beqAll ps qs →
    SeqType.subtypeOfAll ps qs ∧ SeqType.subtypeOfAll qs ps
  | [], qs, h => by
      cases qs with
      | nil => exact ⟨SeqType.subtypeOfAll_refl _, SeqType.subtypeOfAll_refl _⟩
      | cons q qs => simp [SeqType.beqAll] at h
  | p :: ps, qs, h => by
      cases qs with
      | nil => simp [SeqType.beqAll] at h
      | cons q qs =>
          rw [SeqType.beqAll, Bool.and_eq_true] at h
          obtain ⟨hpq, hqp⟩ := SeqType.subtypeOf_of_beq h.1
          obtain ⟨hps, hqs⟩ := SeqType.subtypeOfAll_of_beqAll h.2
          rw [SeqType.subtypeOfAll, SeqType.subtypeOfAll, hpq, hqp, hps, hqs]
          exact ⟨rfl, rfl⟩

end

namespace SeqType

theorem empty_union_covers (b : SeqType) :
    empty.subtypeOf (empty.union b) ∧ b.subtypeOf (empty.union b) := by
  rw [union, empty_subtypeOf_iff, occurrence_make]
  refine ⟨by cases b.occurrence <;> rfl, ?_⟩
  cases b with
  | empty => exact empty_subtypeOf_iff.2 rfl
  | of u p l hp =>
      rw [occurrence, make_of_ne_zero _ _ (Occurrence.union_ne_zero_right hp _)]
      exact of_subtypeOf_of_iff.2
        ⟨u.subtypeOf_refl, Occurrence.subtypeOf_union_right _ p, testsOverlap_self l⟩

theorem union_empty_covers (a : SeqType) :
    a.subtypeOf (a.union empty) ∧ empty.subtypeOf (a.union empty) := by
  cases a with
  | empty => exact empty_union_covers empty
  | of t o k ho =>
      rw [union, empty_subtypeOf_iff, occurrence_make,
        make_of_ne_zero _ _ (Occurrence.union_ne_zero_left ho _)]
      refine ⟨of_subtypeOf_of_iff.2 ?_, by cases o <;> rfl⟩
      exact ⟨t.subtypeOf_refl, Occurrence.subtypeOf_union_left o _, testsOverlap_self k⟩

variable {t u : ItemType} {o p : Occurrence} {k l : Option KindTest} {ho : o ≠ .zero} {hp : p ≠ .zero}

/-- A union of two types with items covers both exactly if the union of their item types does. -/
theorem of_union_covers_iff :
    ((of t o k ho).subtypeOf ((of t o k ho).union (of u p l hp)) ∧
        (of u p l hp).subtypeOf ((of t o k ho).union (of u p l hp))) ↔
      t.subtypeOf (t.union u) ∧ u.subtypeOf (t.union u) := by
  have hne := Occurrence.union_ne_zero_left ho p
  have hleft := Occurrence.subtypeOf_union_left o p
  have hright := Occurrence.subtypeOf_union_right o p
  rw [union]
  by_cases htu : t == u
  · obtain ⟨hsub, hsup⟩ := ItemType.subtypeOf_of_beq htu
    obtain ⟨hk, hl⟩ := testsOverlap_commonTest k l
    rw [if_pos htu, make_of_ne_zero _ _ hne, of_subtypeOf_of_iff, of_subtypeOf_of_iff,
      ItemType.union_of_subtypeOf hsub]
    exact ⟨fun _ => ⟨hsub, u.subtypeOf_refl⟩,
      fun _ => ⟨⟨t.subtypeOf_refl, hleft, hk⟩, hsup, hright, hl⟩⟩
  · rw [if_neg htu, make_of_ne_zero _ _ hne, of_subtypeOf_of_iff, of_subtypeOf_of_iff]
    simp [hleft, hright]

/-- What an intersection of two sequence types is made of. -/
theorem intersect?_eq_some_iff {a b m : SeqType} :
    a.intersect? b = some m ↔
      ∃ o t k, a.occurrence.intersect? b.occurrence = some o ∧
        a.itemType.intersect? b.itemType = some t ∧ mergeTests? a.test? b.test? = some k ∧
        m = make t o k := by
  rw [intersect?]
  simp only [Option.bind_eq_some_iff, Option.map_eq_some_iff]
  constructor
  · rintro ⟨o, ho, t, ht, k, hk, hm⟩
    exact ⟨o, t, k, ho, ht, hk, hm.symm⟩
  · rintro ⟨o, t, k, ho, ht, hk, hm⟩
    exact ⟨o, ho, t, ht, k, hk, hm.symm⟩

theorem isSome_intersect?_iff {a b : SeqType} :
    (a.intersect? b).isSome ↔ (a.occurrence.intersect? b.occurrence).isSome ∧
      (a.itemType.intersect? b.itemType).isSome ∧ (mergeTests? a.test? b.test?).isSome := by
  simp only [Option.isSome_iff_exists, intersect?_eq_some_iff]
  constructor
  · rintro ⟨_, o, t, k, ho, ht, hk, _⟩
    exact ⟨⟨o, ho⟩, ⟨t, ht⟩, ⟨k, hk⟩⟩
  · rintro ⟨⟨o, ho⟩, ⟨t, ht⟩, ⟨k, hk⟩⟩
    exact ⟨_, o, t, k, ho, ht, hk, rfl⟩

/-- An intersection with the empty-sequence type is the empty-sequence type, and lies below both. -/
theorem intersect?_of_zero {a b m : SeqType} (hzero : a = empty ∨ b = empty)
    (h : a.intersect? b = some m) : m.subtypeOf a ∧ m.subtypeOf b := by
  obtain ⟨o, t, k, ho, _, _, rfl⟩ := intersect?_eq_some_iff.1 h
  obtain ⟨hoa, hob⟩ := (Occurrence.subtypeOf_intersect?_iff ho).1 o.subtypeOf_refl
  obtain rfl : o = .zero := by
    rcases hzero with rfl | rfl
    · exact Occurrence.eq_zero_of_subtypeOf hoa
    · exact Occurrence.eq_zero_of_subtypeOf hob
  rw [make_zero, empty_subtypeOf_iff, empty_subtypeOf_iff]
  exact ⟨Nat.le_zero.1 (Occurrence.subtypeOf_iff.1 hoa).1,
    Nat.le_zero.1 (Occurrence.subtypeOf_iff.1 hob).1⟩

/-- An intersection of two types with items lies below both exactly if the intersection of their item
types does. -/
theorem of_intersect?_fits {m : SeqType} (h : (of t o k ho).intersect? (of u p l hp) = some m) :
    ∃ i, t.intersect? u = some i ∧
      ((m.subtypeOf (of t o k ho) ∧ m.subtypeOf (of u p l hp)) ↔ i.subtypeOf t ∧ i.subtypeOf u) := by
  obtain ⟨q, i, n, hq, hi, hn, rfl⟩ := intersect?_eq_some_iff.1 h
  obtain ⟨hqo, hqp⟩ := (Occurrence.subtypeOf_intersect?_iff hq).1 q.subtypeOf_refl
  obtain ⟨hnk, hnl⟩ := testsOverlap_of_mergeTests? hn
  have hne := Occurrence.intersect?_ne_zero ho hp hq
  refine ⟨i, hi, ?_⟩
  rw [make_of_ne_zero _ _ hne, of_subtypeOf_of_iff, of_subtypeOf_of_iff]
  simp only [occurrence] at hqo hqp
  simp only [test?] at hnk hnl
  simp [hqo, hqp, hnk, hnl]

end SeqType

/-! ### Item types

The conditions are exact: shown for all types up to a weight, with a lemma for each sort of type. -/

/-- The conditions are exact for item types of a total weight below `n`. -/
structure ExactBelow (n : Nat) : Prop where
  union : ∀ a b : ItemType, a.weight + b.weight < n →
    ((a.subtypeOf (a.union b) ∧ b.subtypeOf (a.union b)) ↔ a.unionCovers b)
  intersect : ∀ a b m : ItemType, a.weight + b.weight < n → a.intersect? b = some m →
    ((m.subtypeOf a ∧ m.subtypeOf b) ↔ a.intersectFits b)

namespace ExactBelow

variable {n : Nat}

theorem seq_union (ih : ExactBelow n) {a b : SeqType} (hn : a.weight + b.weight ≤ n) :
    (a.subtypeOf (a.union b) ∧ b.subtypeOf (a.union b)) ↔ a.unionCovers b := by
  cases a with
  | empty => simpa [SeqType.unionCovers] using SeqType.empty_union_covers b
  | of t o k ho =>
      cases b with
      | empty => simpa [SeqType.unionCovers] using SeqType.union_empty_covers (.of t o k ho)
      | of u p l hp =>
          simp only [SeqType.weight] at hn
          rw [SeqType.of_union_covers_iff, SeqType.unionCovers]
          exact ih.union t u (by omega)

theorem seq_intersect (ih : ExactBelow n) {a b m : SeqType} (hn : a.weight + b.weight ≤ n)
    (h : a.intersect? b = some m) : (m.subtypeOf a ∧ m.subtypeOf b) ↔ a.intersectFits b := by
  cases a with
  | empty => simpa [SeqType.intersectFits] using SeqType.intersect?_of_zero (Or.inl rfl) h
  | of t o k ho =>
      cases b with
      | empty => simpa [SeqType.intersectFits] using SeqType.intersect?_of_zero (Or.inr rfl) h
      | of u p l hp =>
          simp only [SeqType.weight] at hn
          obtain ⟨i, hi, hiff⟩ := SeqType.of_intersect?_fits h
          rw [hiff, SeqType.intersectFits]
          exact ih.intersect t u i (by omega) hi

theorem all_union (ih : ExactBelow n) {ps qs us : List SeqType}
    (hn : SeqType.weightAll ps + SeqType.weightAll qs ≤ n) (h : SeqType.unionAll? ps qs = some us) :
    (SeqType.subtypeOfAll ps us ∧ SeqType.subtypeOfAll qs us) ↔ SeqType.unionAllCover ps qs := by
  induction ps generalizing qs us with
  | nil =>
      cases qs with
      | nil =>
          rw [SeqType.unionAll?] at h
          cases h
          simp [SeqType.subtypeOfAll, SeqType.unionAllCover]
      | cons q qs => simp [SeqType.unionAll?] at h
  | cons p ps ihps =>
      cases qs with
      | nil => simp [SeqType.unionAll?] at h
      | cons q qs =>
          rw [SeqType.unionAll?] at h
          obtain ⟨us, hus, rfl⟩ := Option.map_eq_some_iff.1 h
          simp only [SeqType.weightAll] at hn
          have hhead := ih.seq_union (a := p) (b := q) (by omega)
          have htail := ihps (by omega) hus
          rw [SeqType.subtypeOfAll, SeqType.subtypeOfAll, SeqType.unionAllCover, Bool.and_eq_true,
            Bool.and_eq_true, Bool.and_eq_true, ← hhead, ← htail]
          exact and_and_and_comm

theorem all_intersect (ih : ExactBelow n) {ps qs us : List SeqType}
    (hn : SeqType.weightAll ps + SeqType.weightAll qs ≤ n)
    (h : SeqType.intersectAll? ps qs = some us) :
    (SeqType.subtypeOfAll us ps ∧ SeqType.subtypeOfAll us qs) ↔ SeqType.intersectAllFit ps qs := by
  induction ps generalizing qs us with
  | nil =>
      cases qs with
      | nil =>
          rw [SeqType.intersectAll?] at h
          cases h
          simp [SeqType.subtypeOfAll, SeqType.intersectAllFit]
      | cons q qs => simp [SeqType.intersectAll?] at h
  | cons p ps ihps =>
      cases qs with
      | nil => simp [SeqType.intersectAll?] at h
      | cons q qs =>
          rw [SeqType.intersectAll?] at h
          obtain ⟨u, hu, h⟩ := Option.bind_eq_some_iff.1 h
          obtain ⟨us, hus, rfl⟩ := Option.map_eq_some_iff.1 h
          simp only [SeqType.weightAll] at hn
          have hhead := ih.seq_intersect (by omega) hu
          have htail := ihps (by omega) hus
          rw [SeqType.subtypeOfAll, SeqType.subtypeOfAll, SeqType.intersectAllFit, Bool.and_eq_true,
            Bool.and_eq_true, Bool.and_eq_true, ← hhead, ← htail]
          exact and_and_and_comm

theorem function_union (ih : ExactBelow n) {f g : FunctionType} (hn : f.weight + g.weight ≤ n) :
    (f.subtypeOf (f.union g) ∧ g.subtypeOf (f.union g)) ↔ f.unionCovers g := by
  cases f with
  | any => simp [FunctionType.union, FunctionType.unionCovers]
  | of ps r =>
      cases g with
      | any => simp [FunctionType.union, FunctionType.unionCovers]
      | of qs s =>
          rw [FunctionType.union, FunctionType.unionCovers]
          cases hparams : SeqType.intersectAll? ps qs with
          | none => simp
          | some params =>
              simp only [FunctionType.weight] at hn
              have hfit := ih.all_intersect (by omega) hparams
              have hcover := ih.seq_union (a := r) (b := s) (by omega)
              simp only [FunctionType.subtypeOf, Bool.and_eq_true, Option.isNone_some, Bool.false_or,
                ← hfit, ← hcover]
              exact and_and_and_comm

theorem function_intersect (ih : ExactBelow n) {f g m : FunctionType} (hn : f.weight + g.weight ≤ n)
    (h : f.intersect? g = some m) : (m.subtypeOf f ∧ m.subtypeOf g) ↔ f.intersectFits g := by
  cases f with
  | any => simp [FunctionType.intersect?] at h
  | of ps r =>
      cases g with
      | any => simp [FunctionType.intersect?] at h
      | of qs s =>
          rw [FunctionType.intersect?] at h
          obtain ⟨params, hparams, h⟩ := Option.bind_eq_some_iff.1 h
          obtain ⟨result, hresult, rfl⟩ := Option.map_eq_some_iff.1 h
          simp only [FunctionType.weight] at hn
          have hcover := ih.all_union (by omega) hparams
          have hfit := ih.seq_intersect (by omega) hresult
          simp only [FunctionType.subtypeOf, FunctionType.intersectFits, Bool.and_eq_true, ← hfit,
            ← hcover]
          exact and_and_and_comm

theorem item_union (ih : ExactBelow n) {a b : ItemType} (hn : a.weight + b.weight ≤ n) :
    (a.subtypeOf (a.union b) ∧ b.subtypeOf (a.union b)) ↔ a.unionCovers b := by
  generalize hc : a.union b = c
  cases ItemType.unionShape hc with
  | below hab => simp [hab, ItemType.subtypeOf_refl, ItemType.unionCovers_of_comparable]
  | above hab hba => simp [hba, ItemType.subtypeOf_refl, ItemType.unionCovers_of_comparable]
  | @atomic r t =>
      have hcover : (ItemType.atomic r).unionCovers (.atomic t) := by simp [ItemType.unionCovers]
      cases hu : r.union? t with
      | none => simp [hcover]
      | some u =>
          obtain ⟨hru, htu⟩ := AtomicType.subtypeOf_union? hu
          simp [ItemType.subtypeOf, hru, htu, hcover]
  | node hjk hkj => simp [ItemType.subtypeOf, NodeKind.subtypeOf, ItemType.unionCovers]
  | @map k l v w hab hba =>
      simp only [ItemType.weight] at hn
      have hvalues := ih.seq_union (a := v) (b := w) (by omega)
      rw [ItemType.unionCovers]
      simp only [hab, hba, Bool.false_or, ItemType.subtypeOf, Bool.and_eq_true, ← hvalues,
        ← AtomicType.subtypeOf_getD_union?_iff]
      exact and_and_and_comm
  | array hmn hnm =>
      simp only [ItemType.weight] at hn
      rw [ItemType.unionCovers]
      simp only [ItemType.subtypeOf, hmn, hnm, Bool.false_or]
      exact ih.seq_union (by omega)
  | function hfg hgf =>
      simp only [ItemType.weight] at hn
      rw [ItemType.unionCovers]
      simp only [ItemType.subtypeOf, hfg, hgf, Bool.false_or]
      exact ih.function_union (by omega)
  | apart hab hba hatomic hnode hmap harray hfunction =>
      have hleft := ItemType.Ground.subtypeOf_apart (g := a) (x := a) (y := b) fun ha _ => ha
      have hright := ItemType.Ground.subtypeOf_apart (g := b) (x := a) (y := b) fun _ hb => hb
      have hcover : a.unionCovers b := by
        rw [ItemType.unionCovers.eq_def, Bool.or_eq_true]
        right
        split
        · exact absurd rfl (hmap _ _ _ _ rfl)
        · exact absurd rfl (harray _ _ rfl)
        · exact absurd rfl (hfunction _ _ rfl)
        · rfl
      simp only [hleft, hright, hcover, and_self]

theorem item_intersect (ih : ExactBelow n) {a b m : ItemType} (hn : a.weight + b.weight ≤ n)
    (h : a.intersect? b = some m) : (m.subtypeOf a ∧ m.subtypeOf b) ↔ a.intersectFits b := by
  cases ItemType.intersectShape h with
  | below hab => simp [hab, ItemType.subtypeOf_refl, ItemType.intersectFits_of_comparable]
  | above hab hba => simp [hba, ItemType.subtypeOf_refl, ItemType.intersectFits_of_comparable]
  | map hab hba hkey hvalue =>
      obtain ⟨hk, hl⟩ := (AtomicType.subtypeOf_intersect?_iff hkey).1 (AtomicType.subtypeOf_refl _)
      simp only [ItemType.weight] at hn
      rw [ItemType.intersectFits]
      simp only [hab, hba, Bool.false_or, ItemType.subtypeOf, hk, hl, Bool.true_and]
      exact ih.seq_intersect (by omega) hvalue
  | array hmn hnm hi =>
      simp only [ItemType.weight] at hn
      rw [ItemType.intersectFits]
      simp only [ItemType.subtypeOf, hmn, hnm, Bool.false_or]
      exact ih.seq_intersect (by omega) hi
  | function hfg hgf hi =>
      simp only [ItemType.weight] at hn
      rw [ItemType.intersectFits]
      simp only [ItemType.subtypeOf, hfg, hgf, Bool.false_or]
      exact ih.function_intersect (by omega) hi
  | lookupLeft hab ha hf => simp [hab, ItemType.intersectFits_lookup ha hab]
  | lookupRight hba hb hf => simp [hba, ItemType.intersectFits_lookup hb hba]

end ExactBelow

theorem exactBelow (n : Nat) : ExactBelow n := by
  induction n with
  | zero =>
      exact ⟨fun _ _ hn => absurd hn (Nat.not_lt_zero _),
        fun _ _ _ hn => absurd hn (Nat.not_lt_zero _)⟩
  | succ n ih =>
      exact ⟨fun _ _ hn => ih.item_union (Nat.le_of_lt_succ hn),
        fun _ _ _ hn => ih.item_intersect (Nat.le_of_lt_succ hn)⟩

theorem ItemType.union_covers_iff (a b : ItemType) :
    (a.subtypeOf (a.union b) ∧ b.subtypeOf (a.union b)) ↔ a.unionCovers b :=
  (exactBelow _).union a b (Nat.lt_succ_self _)

theorem SeqType.union_covers_iff (a b : SeqType) :
    (a.subtypeOf (a.union b) ∧ b.subtypeOf (a.union b)) ↔ a.unionCovers b :=
  (exactBelow _).seq_union (Nat.le_refl _)

theorem SeqType.intersect?_fits_iff {a b m : SeqType} (h : a.intersect? b = some m) :
    (m.subtypeOf a ∧ m.subtypeOf b) ↔ a.intersectFits b :=
  (exactBelow _).seq_intersect (Nat.le_refl _) h

namespace ItemType

theorem ne_nmtokens_of_regular {k : AtomicType} {v : SeqType} (h : (map k v).within .regular) :
    k ≠ .nmtokens := by
  rintro rfl
  cases (within_map_iff.1 h).1

theorem arity?_ne_one_of_regular {f : FunctionType} (h : (function f).within .regular) :
    f.arity? ≠ some 1 := by
  intro harity
  cases f with
  | any => cases harity
  | of ps r =>
      obtain ⟨p, rfl⟩ := List.length_eq_one_iff.1 (Option.some.inj harity)
      cases (within_function_iff.1 h).1

end ItemType

mutual

theorem ItemType.unionCovers_of_regular :
    {a b : ItemType} → a.within .regular → b.within .regular → a.unionCovers b
  | .map k v, b, ha, hb => by
      cases b with
      | map l w =>
          have hkeys := AtomicType.isSome_union? (ItemType.ne_nmtokens_of_regular ha)
            (ItemType.ne_nmtokens_of_regular hb)
          have hvalues := SeqType.unionCovers_of_regular (ItemType.within_map_iff.1 ha).2
            (ItemType.within_map_iff.1 hb).2
          simp [ItemType.unionCovers, hkeys, hvalues]
      | _ => simp [ItemType.unionCovers]
  | .array m, b, ha, hb => by
      cases b with
      | array o =>
          have hm := SeqType.unionCovers_of_regular (ItemType.within_array_iff.1 ha).2
            (ItemType.within_array_iff.1 hb).2
          simp [ItemType.unionCovers, hm]
      | _ => simp [ItemType.unionCovers]
  | .function f, b, ha, hb => by
      cases b with
      | function g =>
          have hf := FunctionType.unionCovers_of_regular (ItemType.within_function_iff.1 ha).2
            (ItemType.within_function_iff.1 hb).2
          simp [ItemType.unionCovers, hf]
      | _ => simp [ItemType.unionCovers]
  | .item, b, _, _ | .atomic _, b, _, _ | .node _, b, _, _ => by
      cases b <;> simp [ItemType.unionCovers]

/-- Intersections of regular types are sound: without signatures of one parameter, no map or array can
be met by a function type that does not cover it. -/
theorem ItemType.intersectFits_of_regular : {a b m : ItemType} → a.within .regular →
    b.within .regular → a.intersect? b = some m → a.intersectFits b
  | .map k v, b, m, ha, hb, h => by
      cases ItemType.intersectShape h with
      | below hab => exact ItemType.intersectFits_of_comparable (Or.inl hab)
      | above hab hba => exact ItemType.intersectFits_of_comparable (Or.inr hba)
      | map hab hba hkey hvalue =>
          have hfits := SeqType.intersectFits_of_regular (ItemType.within_map_iff.1 ha).2
            (ItemType.within_map_iff.1 hb).2 hvalue
          simp [ItemType.intersectFits, hfits]
      | lookupLeft hab hlookup hf => exact absurd hf (ItemType.arity?_ne_one_of_regular hb)
  | .array v, b, m, ha, hb, h => by
      cases ItemType.intersectShape h with
      | below hab => exact ItemType.intersectFits_of_comparable (Or.inl hab)
      | above hab hba => exact ItemType.intersectFits_of_comparable (Or.inr hba)
      | array hmn hnm hi =>
          have hfits := SeqType.intersectFits_of_regular (ItemType.within_array_iff.1 ha).2
            (ItemType.within_array_iff.1 hb).2 hi
          simp [ItemType.intersectFits, hfits]
      | lookupLeft hab hlookup hf => exact absurd hf (ItemType.arity?_ne_one_of_regular hb)
  | .function f, b, m, ha, hb, h => by
      cases ItemType.intersectShape h with
      | below hab => exact ItemType.intersectFits_of_comparable (Or.inl hab)
      | above hab hba => exact ItemType.intersectFits_of_comparable (Or.inr hba)
      | function hfg hgf hi =>
          have hfits := FunctionType.intersectFits_of_regular (ItemType.within_function_iff.1 ha).2
            (ItemType.within_function_iff.1 hb).2 hi
          simp [ItemType.intersectFits, hfits]
      | lookupLeft hab hlookup hf => exact absurd hf (ItemType.arity?_ne_one_of_regular hb)
      | lookupRight hba hlookup hf => exact absurd hf (ItemType.arity?_ne_one_of_regular ha)
  | .item, b, m, _, hb, h | .atomic _, b, m, _, hb, h | .node _, b, m, _, hb, h => by
      cases ItemType.intersectShape h with
      | below hab => exact ItemType.intersectFits_of_comparable (Or.inl hab)
      | above hab hba => exact ItemType.intersectFits_of_comparable (Or.inr hba)
      | lookupLeft hab hlookup hf => cases hlookup

theorem FunctionType.unionCovers_of_regular : {f g : FunctionType} → f.within .regular →
    g.within .regular → f.unionCovers g
  | .any, g, _, _ => by cases g <;> simp [FunctionType.unionCovers]
  | .of ps r, g, hf, hg => by
      cases g with
      | any => simp [FunctionType.unionCovers]
      | of qs s =>
          simp only [FunctionType.within, Bool.and_eq_true] at hf hg
          rw [FunctionType.unionCovers]
          cases hparams : SeqType.intersectAll? ps qs with
          | none => rfl
          | some params =>
              simp [SeqType.intersectAllFit_of_regular hf.1 hg.1 hparams,
                SeqType.unionCovers_of_regular hf.2 hg.2]

theorem FunctionType.intersectFits_of_regular : {f g m : FunctionType} → f.within .regular →
    g.within .regular → f.intersect? g = some m → f.intersectFits g
  | .any, g, _, _, _, _ => by cases g <;> simp [FunctionType.intersectFits]
  | .of ps r, g, m, hf, hg, h => by
      cases g with
      | any => simp [FunctionType.intersectFits]
      | of qs s =>
          simp only [FunctionType.within, Bool.and_eq_true] at hf hg
          rw [FunctionType.intersect?] at h
          obtain ⟨params, hparams, h⟩ := Option.bind_eq_some_iff.1 h
          obtain ⟨result, hresult, rfl⟩ := Option.map_eq_some_iff.1 h
          rw [FunctionType.intersectFits, SeqType.unionAllCover_of_regular hf.1 hg.1,
            SeqType.intersectFits_of_regular hf.2 hg.2 hresult]
          rfl

theorem SeqType.unionCovers_of_regular : {a b : SeqType} → a.within .regular → b.within .regular →
    a.unionCovers b
  | .empty, b, _, _ => by simp [SeqType.unionCovers]
  | .of t o k ho, b, ha, hb => by
      cases b with
      | empty => simp [SeqType.unionCovers]
      | of u p l hp =>
          simp only [SeqType.within, Bool.and_eq_true] at ha hb
          rw [SeqType.unionCovers]
          exact ItemType.unionCovers_of_regular ha.2 hb.2

theorem SeqType.intersectFits_of_regular : {a b m : SeqType} → a.within .regular →
    b.within .regular → a.intersect? b = some m → a.intersectFits b
  | .empty, b, _, _, _, _ => by simp [SeqType.intersectFits]
  | .of t o k ho, b, m, ha, hb, h => by
      cases b with
      | empty => simp [SeqType.intersectFits]
      | of u p l hp =>
          simp only [SeqType.within, Bool.and_eq_true] at ha hb
          obtain ⟨i, hi, _⟩ := SeqType.of_intersect?_fits h
          rw [SeqType.intersectFits]
          exact ItemType.intersectFits_of_regular ha.2 hb.2 hi

theorem SeqType.unionAllCover_of_regular : {ps qs : List SeqType} → SeqType.allWithin .regular ps →
    SeqType.allWithin .regular qs → SeqType.unionAllCover ps qs
  | [], qs, _, _ => by simp [SeqType.unionAllCover]
  | p :: ps, qs, hp, hq => by
      cases qs with
      | nil => simp [SeqType.unionAllCover]
      | cons q qs =>
          simp only [SeqType.allWithin, Bool.and_eq_true] at hp hq
          rw [SeqType.unionAllCover, SeqType.unionCovers_of_regular hp.1 hq.1,
            SeqType.unionAllCover_of_regular hp.2 hq.2]
          rfl

theorem SeqType.intersectAllFit_of_regular : {ps qs us : List SeqType} →
    SeqType.allWithin .regular ps → SeqType.allWithin .regular qs →
    SeqType.intersectAll? ps qs = some us → SeqType.intersectAllFit ps qs
  | [], qs, _, _, _, _ => by simp [SeqType.intersectAllFit]
  | p :: ps, qs, us, hp, hq, h => by
      cases qs with
      | nil => simp [SeqType.intersectAllFit]
      | cons q qs =>
          simp only [SeqType.allWithin, Bool.and_eq_true] at hp hq
          rw [SeqType.intersectAll?] at h
          obtain ⟨u, hu, h⟩ := Option.bind_eq_some_iff.1 h
          obtain ⟨us, hus, rfl⟩ := Option.map_eq_some_iff.1 h
          rw [SeqType.intersectAllFit, SeqType.intersectFits_of_regular hp.1 hq.1 hu,
            SeqType.intersectAllFit_of_regular hp.2 hq.2 hus]
          rfl

end

/-- A union of item types covers both of them exactly under the condition on their parts, and so it always
does where no map is keyed by the list type and no signature has one parameter. -/
theorem ItemType.union_upper_bound (a b : ItemType) :
    ((a.subtypeOf (a.union b) ∧ b.subtypeOf (a.union b)) ↔ a.unionCovers b) ∧
    (a.within .regular → b.within .regular →
      a.subtypeOf (a.union b) ∧ b.subtypeOf (a.union b)) := by
  refine ⟨union_covers_iff a b, fun ha hb => ?_⟩
  rw [union_covers_iff]
  exact unionCovers_of_regular ha hb

/-- Two functions of a map and an array, with different keys and results. -/
theorem ItemType.union_of_binary_functions :
    let onInteger : ItemType := .function (.of
      [(ItemType.map .integer (ItemType.atomic .string).single).single, (ItemType.anyArray).single]
      (ItemType.atomic .long).single)
    let onDecimal : ItemType := .function (.of
      [(ItemType.map .decimal (.of .item .zeroOne none (by decide))).single,
        (ItemType.array (ItemType.node .element).single).single]
      (ItemType.atomic .boolean).single)
    onInteger.within .regular ∧ onDecimal.within .regular ∧
      onInteger.subtypeOf (onInteger.union onDecimal) ∧
      onDecimal.subtypeOf (onInteger.union onDecimal) := by
  refine ⟨by decide, by decide, ?_⟩
  exact (union_upper_bound _ _).2 (by decide) (by decide)

/-- A function on maps and one on functions: a map is taken for the intersection of their parameters, and
the union covers the first function only. The list type as a key is not covered by a union either. -/
theorem ItemType.union_covers_one_only :
    let onMap : ItemType := .function (.of
      [(ItemType.map .integer (ItemType.atomic .integer).single).single] (ItemType.atomic .integer).single)
    let onFunction : ItemType := .function (.of
      [(ItemType.function (.of [(ItemType.atomic .string).single]
        (ItemType.atomic .string).single)).single] (ItemType.atomic .integer).single)
    let byTokens : ItemType := .map .nmtokens (ItemType.atomic .integer).single
    let byString : ItemType := .map .string (ItemType.atomic .integer).single
    ¬onFunction.subtypeOf (onMap.union onFunction) ∧ ¬byTokens.subtypeOf (byTokens.union byString) := by
  decide +kernel

end SequenceTypes
