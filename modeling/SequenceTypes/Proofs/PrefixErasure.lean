import SequenceTypes.Proofs.UnionBounds

/-! Types without the prefixes of names. Equality of types ignores prefixes: two types are equal exactly if
they are the same once the prefixes of all names in tests are erased. Erasing them changes no answer of the
operations on types, and commutes with those that build types. An operation therefore gives equal results
on equal types, whatever prefixes these are written with. -/

namespace SequenceTypes

section BeqThroughMap

variable {α β : Type} [BEq α] {e : α → β}

theorem option_beq_iff_map (he : ∀ a b : α, a == b ↔ e a = e b) {x? y? : Option α} :
    x? == y? ↔ x?.map e = y?.map e := by
  cases x? with
  | none => cases y? <;> simp
  | some x =>
      cases y? with
      | none => simp
      | some y => rw [Option.some_beq_some, he, Option.map_some, Option.map_some, Option.some.injEq]

theorem list_beq_iff_map (he : ∀ a b : α, a == b ↔ e a = e b) {xs ys : List α} :
    xs == ys ↔ xs.map e = ys.map e := by
  induction xs generalizing ys with
  | nil => cases ys <;> simp
  | cons x xs ih =>
      cases ys with
      | nil => simp
      | cons y ys =>
          rw [List.cons_beq_cons, Bool.and_eq_true, he, ih, List.map_cons, List.map_cons, List.cons.injEq]

end BeqThroughMap

namespace QName

def bare (q : QName) : QName := ⟨q.toExpandedName, none⟩

theorem beq_iff_bare {a b : QName} : a == b ↔ a.bare = b.bare := by
  show (a.toExpandedName == b.toExpandedName) = true ↔ _
  simp [bare]

end QName

namespace NameTest

def bare : NameTest → NameTest
  | name a => name a.bare
  | inNamespace uri => inNamespace uri
  | localName l => localName l

theorem beq_iff_bare {s t : NameTest} : s == t ↔ s.bare = t.bare := by
  cases s with
  | name a =>
      cases t with
      | name b =>
          rw [bare, bare, name.injEq]
          exact QName.beq_iff_bare
      | _ => simp [bare, BEq.beq, beq]
  | _ => cases t <;> simp [bare, BEq.beq, beq]

theorem bare_bare (t : NameTest) : t.bare.bare = t.bare := by
  cases t <;> rfl

theorem bare_accepts (t : NameTest) (q : QName) : t.bare.accepts q = t.accepts q := by
  cases t <;> rfl

theorem accepts_bare (t : NameTest) (q : QName) : t.accepts q.bare = t.accepts q := by
  cases t <;> rfl

theorem intersect?_bare (s t : NameTest) : s.bare.intersect? t.bare = (s.intersect? t).map bare := by
  cases s with
  | name a =>
      rw [intersect?, bare, intersect?, bare_accepts, accepts_bare]
      split <;> rfl
  | inNamespace uri =>
      cases t with
      | name b =>
          simp only [bare, intersect?, accepts_bare]
          split <;> rfl
      | inNamespace uri' =>
          simp only [bare, intersect?]
          split <;> rfl
      | localName l => rfl
  | localName l =>
      cases t with
      | name b =>
          simp only [bare, intersect?, accepts_bare]
          split <;> rfl
      | inNamespace uri => rfl
      | localName l' =>
          simp only [bare, intersect?]
          split <;> rfl

end NameTest

namespace KindTest

def bare (t : KindTest) : KindTest := ⟨t.kind, t.names.bare⟩

theorem beq_iff_bare {a b : KindTest} : a == b ↔ a.bare = b.bare := by
  rw [beq_iff, NameTest.beq_iff_bare]
  simp [bare]

theorem bare_bare (t : KindTest) : t.bare.bare = t.bare := by
  simp [bare, NameTest.bare_bare]

theorem beq_bare (a b : KindTest) : (a.bare == b.bare) = (a == b) := by
  rw [Bool.eq_iff_iff, beq_iff_bare, beq_iff_bare, bare_bare, bare_bare]

theorem intersect?_bare (a b : KindTest) : a.bare.intersect? b.bare = (a.intersect? b).map bare := by
  unfold intersect?
  simp only [bare, NameTest.intersect?_bare]
  cases a.kind.intersect? b.kind <;> cases a.names.intersect? b.names <;> rfl

/-- A test accepts the same nodes under all prefixes. -/
theorem bare_accepts (t : KindTest) (n : Node) : t.bare.accepts n = t.accepts n := by
  have hnames : t.names.bare.accepts = t.names.accepts := funext t.names.bare_accepts
  rw [accepts, accepts, bare, hnames]

end KindTest

theorem testsOverlap_bare (k l : Option KindTest) :
    testsOverlap (k.map KindTest.bare) (l.map KindTest.bare) = testsOverlap k l := by
  cases l with
  | none => rfl
  | some l => cases k <;> simp [testsOverlap, KindTest.intersect?_bare]

theorem commonTest_bare (k l : Option KindTest) :
    commonTest (k.map KindTest.bare) (l.map KindTest.bare) = (commonTest k l).map KindTest.bare := by
  cases k with
  | none => rfl
  | some s =>
      cases l with
      | none => rfl
      | some t =>
          simp only [commonTest, Option.map_some, KindTest.beq_bare]
          split <;> rfl

theorem mergeTests?_bare (k l : Option KindTest) :
    mergeTests? (k.map KindTest.bare) (l.map KindTest.bare) =
      (mergeTests? k l).map (·.map KindTest.bare) := by
  cases k with
  | none => rfl
  | some s =>
      cases l with
      | none => rfl
      | some t =>
          simp only [mergeTests?, Option.map_some, KindTest.beq_bare, KindTest.intersect?_bare]
          split
          · rfl
          · cases s.intersect? t <;> rfl

mutual

/-- The item type with all names in it without prefixes. -/
def ItemType.bare : ItemType → ItemType
  | .item => .item
  | .atomic t => .atomic t
  | .node k => .node k
  | .function f => .function f.bare
  | .map k v => .map k v.bare
  | .array m => .array m.bare

def FunctionType.bare : FunctionType → FunctionType
  | .any => .any
  | .of ps r => .of (SeqType.bareAll ps) r.bare

def SeqType.bare : SeqType → SeqType
  | .empty => .empty
  | .of t o k h => .of t.bare o (k.map KindTest.bare) h

def SeqType.bareAll : List SeqType → List SeqType
  | [] => []
  | p :: ps => p.bare :: SeqType.bareAll ps

end

mutual

/-- Equal item types are the same without prefixes. -/
theorem ItemType.beq_iff_bare : {a b : ItemType} → (a.beq b ↔ a.bare = b.bare)
  | .item, b => by cases b <;> simp [ItemType.beq, ItemType.bare]
  | .atomic s, b => by cases b <;> simp [ItemType.beq, ItemType.bare]
  | .node j, b => by cases b <;> simp [ItemType.beq, ItemType.bare]
  | .function f, b => by
      cases b with
      | function g => simpa [ItemType.beq, ItemType.bare] using FunctionType.beq_iff_bare (f := f) (g := g)
      | _ => simp [ItemType.beq, ItemType.bare]
  | .map k v, b => by
      cases b with
      | map l w =>
          have hvw := SeqType.beq_iff_bare (a := v) (b := w)
          simp [ItemType.beq, ItemType.bare, hvw]
      | _ => simp [ItemType.beq, ItemType.bare]
  | .array m, b => by
      cases b with
      | array n => simpa [ItemType.beq, ItemType.bare] using SeqType.beq_iff_bare (a := m) (b := n)
      | _ => simp [ItemType.beq, ItemType.bare]

theorem FunctionType.beq_iff_bare : {f g : FunctionType} → (f.beq g ↔ f.bare = g.bare)
  | .any, g => by cases g <;> simp [FunctionType.beq, FunctionType.bare]
  | .of ps r, g => by
      cases g with
      | any => simp [FunctionType.beq, FunctionType.bare]
      | of qs s =>
          have hparams := SeqType.beqAll_iff_bareAll (p := ps) (q := qs)
          have hresult := SeqType.beq_iff_bare (a := r) (b := s)
          simp [FunctionType.beq, FunctionType.bare, hparams, hresult]

/-- Equal sequence types are the same without prefixes. -/
theorem SeqType.beq_iff_bare : {a b : SeqType} → (a.beq b ↔ a.bare = b.bare)
  | .empty, b => by cases b <;> simp [SeqType.beq, SeqType.bare]
  | .of t o k h, b => by
      cases b with
      | empty => simp [SeqType.beq, SeqType.bare]
      | of u p l hp =>
          have hitems := ItemType.beq_iff_bare (a := t) (b := u)
          have htests : k == l ↔ k.map KindTest.bare = l.map KindTest.bare :=
            option_beq_iff_map fun _ _ => KindTest.beq_iff_bare
          simp [SeqType.beq, SeqType.bare, hitems, htests, and_assoc, and_left_comm]

theorem SeqType.beqAll_iff_bareAll : {p q : List SeqType} →
    (SeqType.beqAll p q ↔ SeqType.bareAll p = SeqType.bareAll q)
  | [], qs => by cases qs <;> simp [SeqType.beqAll, SeqType.bareAll]
  | p :: ps, qs => by
      cases qs with
      | nil => simp [SeqType.beqAll, SeqType.bareAll]
      | cons q qs =>
          have hhead := SeqType.beq_iff_bare (a := p) (b := q)
          have htail := SeqType.beqAll_iff_bareAll (p := ps) (q := qs)
          simp [SeqType.beqAll, SeqType.bareAll, hhead, htail]

end

mutual

theorem ItemType.bare_bare : (a : ItemType) → a.bare.bare = a.bare
  | .item | .atomic _ | .node _ => rfl
  | .function f => by rw [ItemType.bare, ItemType.bare, f.bare_bare]
  | .map k v => by rw [ItemType.bare, ItemType.bare, v.bare_bare]
  | .array m => by rw [ItemType.bare, ItemType.bare, m.bare_bare]

theorem FunctionType.bare_bare : (f : FunctionType) → f.bare.bare = f.bare
  | .any => rfl
  | .of ps r => by
      rw [FunctionType.bare, FunctionType.bare, SeqType.bareAll_bareAll ps, r.bare_bare]

theorem SeqType.bare_bare : (a : SeqType) → a.bare.bare = a.bare
  | .empty => rfl
  | .of t o k h => by
      have htest : (k.map KindTest.bare).map KindTest.bare = k.map KindTest.bare := by
        cases k <;> simp [KindTest.bare_bare]
      rw [SeqType.bare, SeqType.bare, t.bare_bare]
      simp only [htest]

theorem SeqType.bareAll_bareAll : (ps : List SeqType) →
    SeqType.bareAll (SeqType.bareAll ps) = SeqType.bareAll ps
  | [] => rfl
  | p :: ps => by
      rw [SeqType.bareAll, SeqType.bareAll, p.bare_bare, SeqType.bareAll_bareAll ps]

end

namespace ItemType

theorem beq_bare (a b : ItemType) : (a.bare == b.bare) = (a == b) := by
  show a.bare.beq b.bare = a.beq b
  rw [Bool.eq_iff_iff, beq_iff_bare, beq_iff_bare, bare_bare, bare_bare]

theorem single_bare (t : ItemType) : t.bare.single = t.single.bare := rfl

theorem isFunction_bare (t : ItemType) : t.bare.isFunction = t.isFunction := by
  cases t <;> rfl

end ItemType

namespace SeqType

theorem beq_bare (a b : SeqType) : (a.bare == b.bare) = (a == b) := by
  show a.bare.beq b.bare = a.beq b
  rw [Bool.eq_iff_iff, beq_iff_bare, beq_iff_bare, bare_bare, bare_bare]

theorem itemType_bare (s : SeqType) : s.bare.itemType = s.itemType.bare := by
  cases s <;> rfl

theorem occurrence_bare (s : SeqType) : s.bare.occurrence = s.occurrence := by
  cases s <;> rfl

theorem test?_bare (s : SeqType) : s.bare.test? = s.test?.map KindTest.bare := by
  cases s <;> rfl

theorem make_bare (t : ItemType) (o : Occurrence) (k : Option KindTest) :
    make t.bare o (k.map KindTest.bare) = (make t o k).bare := by
  by_cases ho : o = .zero
  · rw [ho, make_zero, make_zero, bare]
  · rw [make_of_ne_zero _ _ ho, make_of_ne_zero _ _ ho, bare]

theorem withOccurrence_bare (s : SeqType) (o : Occurrence) :
    s.bare.withOccurrence o = (s.withOccurrence o).bare := by
  unfold withOccurrence
  rw [occurrence_bare, itemType_bare, test?_bare, make_bare]
  split <;> rfl

theorem length_bareAll (ps : List SeqType) : (bareAll ps).length = ps.length := by
  induction ps with
  | nil => rfl
  | cons p ps ih => rw [bareAll, List.length_cons, List.length_cons, ih]

end SeqType

namespace FunctionType

theorem arity?_bare (f : FunctionType) : f.bare.arity? = f.arity? := by
  cases f with
  | any => rfl
  | of ps r => rw [bare, arity?, arity?, SeqType.length_bareAll]

theorem ofMap_bare (v : SeqType) : ofMap v.bare = (ofMap v).bare := by
  rw [ofMap, ofMap, v.occurrence_bare, v.withOccurrence_bare]
  rfl

theorem ofArray_bare (m : SeqType) : ofArray m.bare = (ofArray m).bare := rfl

end FunctionType

namespace ItemType

theorem lookup?_bare (t : ItemType) : t.bare.lookup? = t.lookup?.map FunctionType.bare := by
  cases t with
  | map k v => rw [bare, lookup?, lookup?, FunctionType.ofMap_bare, Option.map_some]
  | array m => rw [bare, lookup?, lookup?, FunctionType.ofArray_bare, Option.map_some]
  | _ => rfl

theorem asFunction?_bare (t : ItemType) : t.bare.asFunction? = t.asFunction?.map FunctionType.bare := by
  cases t with
  | map k v => rw [bare, asFunction?, asFunction?, FunctionType.ofMap_bare, Option.map_some]
  | array m => rw [bare, asFunction?, asFunction?, FunctionType.ofArray_bare, Option.map_some]
  | _ => rfl

end ItemType

/-- Subtyping of item types below a weight does not see prefixes. -/
def SubtypeBareBelow (n : Nat) : Prop :=
  ∀ a b : ItemType, a.weight + b.weight < n → a.bare.subtypeOf b.bare = a.subtypeOf b

namespace SubtypeBareBelow

variable {n : Nat}

theorem seq (ih : SubtypeBareBelow n) {a b : SeqType} (hn : a.weight + b.weight ≤ n) :
    a.bare.subtypeOf b.bare = a.subtypeOf b := by
  cases a with
  | empty =>
      rw [SeqType.bare, SeqType.subtypeOf, SeqType.subtypeOf, SeqType.mayBeZero, SeqType.mayBeZero,
        b.occurrence_bare]
  | of t o k ho =>
      have hwb := b.itemType_weight_lt
      simp only [SeqType.weight] at hn
      have hitems := ih t b.itemType (by omega)
      rw [SeqType.bare, SeqType.subtypeOf, SeqType.subtypeOf, b.itemType_bare, b.occurrence_bare,
        b.test?_bare, hitems, testsOverlap_bare]

theorem all (ih : SubtypeBareBelow n) {ps qs : List SeqType}
    (hn : SeqType.weightAll ps + SeqType.weightAll qs ≤ n) :
    SeqType.subtypeOfAll (SeqType.bareAll ps) (SeqType.bareAll qs) = SeqType.subtypeOfAll ps qs := by
  induction ps generalizing qs with
  | nil => cases qs <;> simp [SeqType.bareAll, SeqType.subtypeOfAll]
  | cons p ps ihps =>
      cases qs with
      | nil => simp [SeqType.bareAll, SeqType.subtypeOfAll]
      | cons q qs =>
          simp only [SeqType.weightAll] at hn
          rw [SeqType.bareAll, SeqType.bareAll, SeqType.subtypeOfAll, SeqType.subtypeOfAll,
            ih.seq (by omega), ihps (by omega)]

theorem function (ih : SubtypeBareBelow n) {f g : FunctionType} (hn : f.weight + g.weight ≤ n) :
    f.bare.subtypeOf g.bare = f.subtypeOf g := by
  cases g with
  | any => simp [FunctionType.bare]
  | of qs s =>
      cases f with
      | any => simp [FunctionType.bare, FunctionType.subtypeOf]
      | of ps r =>
          simp only [FunctionType.weight] at hn
          rw [FunctionType.bare, FunctionType.bare, FunctionType.subtypeOf, FunctionType.subtypeOf,
            ih.all (by omega), ih.seq (by omega)]

theorem item (ih : SubtypeBareBelow n) {a b : ItemType} (hn : a.weight + b.weight ≤ n) :
    a.bare.subtypeOf b.bare = a.subtypeOf b := by
  cases b with
  | item => simp [ItemType.bare]
  | atomic t | node k => cases a <;> simp [ItemType.bare, ItemType.subtypeOf]
  | function g =>
      -- functions, maps and arrays are compared with a function type by their signatures
      rw [ItemType.bare, Bool.eq_iff_iff, ItemType.subtypeOf_function_iff,
        ItemType.subtypeOf_function_iff, ItemType.asFunction?_bare]
      cases hf : a.asFunction? with
      | none => simp
      | some f =>
          have hwf := ItemType.weight_asFunction?_le hf
          simp only [ItemType.weight] at hn
          have hfg := ih.function (f := f) (g := g) (by omega)
          simp [hfg]
  | map l w =>
      cases a with
      | map k v =>
          simp only [ItemType.weight] at hn
          have hvw := ih.seq (a := v) (b := w) (by omega)
          simp [ItemType.bare, ItemType.subtypeOf, hvw]
      | _ => simp [ItemType.bare, ItemType.subtypeOf]
  | array o =>
      cases a with
      | array m =>
          simp only [ItemType.weight] at hn
          have hmo := ih.seq (a := m) (b := o) (by omega)
          simp [ItemType.bare, ItemType.subtypeOf, hmo]
      | _ => simp [ItemType.bare, ItemType.subtypeOf]

end SubtypeBareBelow

theorem subtypeBareBelow (n : Nat) : SubtypeBareBelow n := by
  induction n with
  | zero => exact fun _ _ hn => absurd hn (Nat.not_lt_zero _)
  | succ n ih => exact fun _ _ hn => ih.item (Nat.le_of_lt_succ hn)

theorem ItemType.subtypeOf_bare (a b : ItemType) : a.bare.subtypeOf b.bare = a.subtypeOf b :=
  (subtypeBareBelow _).item (Nat.le_refl _)

theorem SeqType.subtypeOf_bare (a b : SeqType) : a.bare.subtypeOf b.bare = a.subtypeOf b :=
  (subtypeBareBelow _).seq (Nat.le_refl _)

/-! ### Union and intersection -/

/-- Union and intersection of item types below a weight commute with the erasure of prefixes. -/
structure LatticeBareBelow (n : Nat) : Prop where
  union : ∀ a b : ItemType, a.weight + b.weight < n → a.bare.union b.bare = (a.union b).bare
  intersect : ∀ a b : ItemType, a.weight + b.weight < n →
    a.bare.intersect? b.bare = (a.intersect? b).map ItemType.bare

namespace LatticeBareBelow

variable {n : Nat}

theorem seq_union (ih : LatticeBareBelow n) {a b : SeqType} (hn : a.weight + b.weight ≤ n) :
    a.bare.union b.bare = (a.union b).bare := by
  cases a with
  | empty =>
      rw [SeqType.bare, SeqType.union, SeqType.union, b.itemType_bare, b.occurrence_bare, b.test?_bare,
        SeqType.make_bare]
  | of t o k ho =>
      cases b with
      | empty =>
          rw [SeqType.bare, SeqType.bare, SeqType.union, SeqType.union, SeqType.make_bare]
      | of u p l hp =>
          simp only [SeqType.weight] at hn
          rw [SeqType.bare, SeqType.bare, SeqType.union, SeqType.union, ItemType.beq_bare,
            commonTest_bare, ih.union t u (by omega)]
          split
          · exact SeqType.make_bare t (o.union p) (commonTest k l)
          · exact SeqType.make_bare (t.union u) (o.union p) none

theorem seq_intersect (ih : LatticeBareBelow n) {a b : SeqType} (hn : a.weight + b.weight ≤ n) :
    a.bare.intersect? b.bare = (a.intersect? b).map SeqType.bare := by
  have hwa := a.itemType_weight_lt
  have hwb := b.itemType_weight_lt
  have hitems := ih.intersect a.itemType b.itemType (by omega)
  rw [SeqType.intersect?, SeqType.intersect?, a.occurrence_bare, b.occurrence_bare, a.itemType_bare,
    b.itemType_bare, a.test?_bare, b.test?_bare, hitems, mergeTests?_bare]
  cases a.occurrence.intersect? b.occurrence with
  | none => rfl
  | some o =>
      cases a.itemType.intersect? b.itemType with
      | none => rfl
      | some t =>
          cases mergeTests? a.test? b.test? with
          | none => rfl
          | some k => exact congrArg some (SeqType.make_bare t o k)

theorem all_union (ih : LatticeBareBelow n) {ps qs : List SeqType}
    (hn : SeqType.weightAll ps + SeqType.weightAll qs ≤ n) :
    SeqType.unionAll? (SeqType.bareAll ps) (SeqType.bareAll qs) =
      (SeqType.unionAll? ps qs).map SeqType.bareAll := by
  induction ps generalizing qs with
  | nil => cases qs <;> simp [SeqType.bareAll, SeqType.unionAll?]
  | cons p ps ihps =>
      cases qs with
      | nil => simp [SeqType.bareAll, SeqType.unionAll?]
      | cons q qs =>
          simp only [SeqType.weightAll] at hn
          rw [SeqType.bareAll, SeqType.bareAll, SeqType.unionAll?, SeqType.unionAll?,
            ih.seq_union (by omega), ihps (by omega)]
          cases SeqType.unionAll? ps qs <;> rfl

theorem all_intersect (ih : LatticeBareBelow n) {ps qs : List SeqType}
    (hn : SeqType.weightAll ps + SeqType.weightAll qs ≤ n) :
    SeqType.intersectAll? (SeqType.bareAll ps) (SeqType.bareAll qs) =
      (SeqType.intersectAll? ps qs).map SeqType.bareAll := by
  induction ps generalizing qs with
  | nil => cases qs <;> simp [SeqType.bareAll, SeqType.intersectAll?]
  | cons p ps ihps =>
      cases qs with
      | nil => simp [SeqType.bareAll, SeqType.intersectAll?]
      | cons q qs =>
          simp only [SeqType.weightAll] at hn
          rw [SeqType.bareAll, SeqType.bareAll, SeqType.intersectAll?, SeqType.intersectAll?,
            ih.seq_intersect (by omega), ihps (by omega)]
          cases p.intersect? q <;> cases SeqType.intersectAll? ps qs <;> rfl

theorem function_union (ih : LatticeBareBelow n) {f g : FunctionType} (hn : f.weight + g.weight ≤ n) :
    f.bare.union g.bare = (f.union g).bare := by
  cases f with
  | any => cases g <;> simp [FunctionType.bare, FunctionType.union]
  | of ps r =>
      cases g with
      | any => simp [FunctionType.bare, FunctionType.union]
      | of qs s =>
          simp only [FunctionType.weight] at hn
          rw [FunctionType.bare, FunctionType.bare, FunctionType.union, FunctionType.union,
            ih.all_intersect (by omega), ih.seq_union (by omega)]
          cases SeqType.intersectAll? ps qs <;> rfl

theorem function_intersect (ih : LatticeBareBelow n) {f g : FunctionType}
    (hn : f.weight + g.weight ≤ n) :
    f.bare.intersect? g.bare = (f.intersect? g).map FunctionType.bare := by
  cases f with
  | any => cases g <;> simp [FunctionType.bare, FunctionType.intersect?]
  | of ps r =>
      cases g with
      | any => simp [FunctionType.bare, FunctionType.intersect?]
      | of qs s =>
          simp only [FunctionType.weight] at hn
          rw [FunctionType.bare, FunctionType.bare, FunctionType.intersect?, FunctionType.intersect?,
            ih.all_union (by omega), ih.seq_intersect (by omega)]
          cases SeqType.unionAll? ps qs <;> cases r.intersect? s <;> rfl

theorem item_union (ih : LatticeBareBelow n) {a b : ItemType} (hn : a.weight + b.weight ≤ n) :
    a.bare.union b.bare = (a.union b).bare := by
  rw [ItemType.union.eq_def, ItemType.union.eq_def a b, ItemType.subtypeOf_bare, ItemType.subtypeOf_bare]
  by_cases hab : a.subtypeOf b
  · rw [if_pos hab, if_pos hab]
  by_cases hba : b.subtypeOf a
  · rw [if_neg hab, if_pos hba, if_neg hab, if_pos hba]
  rw [if_neg hab, if_neg hba, if_neg hab, if_neg hba]
  cases a with
  | item | node _ => cases b <;> rfl
  | atomic s =>
      cases b with
      | atomic t =>
          simp only [ItemType.bare]
          cases s.union? t <;> rfl
      | _ => rfl
  | function f =>
      cases b with
      | function g =>
          simp only [ItemType.weight] at hn
          exact congrArg ItemType.function (ih.function_union (by omega))
      | _ => rfl
  | map k v =>
      cases b with
      | map l w =>
          simp only [ItemType.weight] at hn
          exact congrArg (ItemType.map _) (ih.seq_union (by omega))
      | _ => rfl
  | array m =>
      cases b with
      | array o =>
          simp only [ItemType.weight] at hn
          exact congrArg ItemType.array (ih.seq_union (by omega))
      | _ => rfl

theorem item_intersect (ih : LatticeBareBelow n) {a b : ItemType} (hn : a.weight + b.weight ≤ n) :
    a.bare.intersect? b.bare = (a.intersect? b).map ItemType.bare := by
  rw [ItemType.intersect?.eq_def, ItemType.intersect?.eq_def a b, ItemType.subtypeOf_bare,
    ItemType.subtypeOf_bare]
  by_cases hab : a.subtypeOf b
  · rw [if_pos hab, if_pos hab, Option.map_some]
  by_cases hba : b.subtypeOf a
  · rw [if_neg hab, if_pos hba, if_neg hab, if_pos hba, Option.map_some]
  rw [if_neg hab, if_neg hba, if_neg hab, if_neg hba]
  cases a with
  | item | node _ => cases b <;> rfl
  | atomic s =>
      cases b with
      | atomic t =>
          simp only [ItemType.bare]
          cases s.intersect? t <;> rfl
      | _ => rfl
  | function f =>
      cases b with
      | function g =>
          simp only [ItemType.weight] at hn
          have hfg := ih.function_intersect (f := f) (g := g) (by omega)
          simp only [ItemType.bare, hfg]
          cases f.intersect? g <;> rfl
      | map k v | array m =>
          simp only [ItemType.bare, FunctionType.arity?_bare]
          split <;> rfl
      | _ => rfl
  | map k v =>
      cases b with
      | map l w =>
          simp only [ItemType.weight] at hn
          have hvw := ih.seq_intersect (a := v) (b := w) (by omega)
          simp only [ItemType.bare, hvw]
          cases k.intersect? l <;> cases v.intersect? w <;> rfl
      | function g =>
          simp only [ItemType.bare, FunctionType.arity?_bare]
          split <;> rfl
      | _ => rfl
  | array m =>
      cases b with
      | array o =>
          simp only [ItemType.weight] at hn
          have hmo := ih.seq_intersect (a := m) (b := o) (by omega)
          simp only [ItemType.bare, hmo]
          cases m.intersect? o <;> rfl
      | function g =>
          simp only [ItemType.bare, FunctionType.arity?_bare]
          split <;> rfl
      | _ => rfl

end LatticeBareBelow

theorem latticeBareBelow (n : Nat) : LatticeBareBelow n := by
  induction n with
  | zero =>
      exact ⟨fun _ _ hn => absurd hn (Nat.not_lt_zero _), fun _ _ hn => absurd hn (Nat.not_lt_zero _)⟩
  | succ n ih =>
      exact ⟨fun _ _ hn => ih.item_union (Nat.le_of_lt_succ hn),
        fun _ _ hn => ih.item_intersect (Nat.le_of_lt_succ hn)⟩

theorem ItemType.union_bare (a b : ItemType) : a.bare.union b.bare = (a.union b).bare :=
  (latticeBareBelow _).item_union (Nat.le_refl _)

theorem ItemType.intersect?_bare (a b : ItemType) :
    a.bare.intersect? b.bare = (a.intersect? b).map bare :=
  (latticeBareBelow _).item_intersect (Nat.le_refl _)

theorem SeqType.union_bare (a b : SeqType) : a.bare.union b.bare = (a.union b).bare :=
  (latticeBareBelow _).seq_union (Nat.le_refl _)

theorem SeqType.intersect?_bare (a b : SeqType) :
    a.bare.intersect? b.bare = (a.intersect? b).map bare :=
  (latticeBareBelow _).seq_intersect (Nat.le_refl _)

end SequenceTypes
