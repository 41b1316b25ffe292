import SequenceTypes.SeqType.Lattice
import SequenceTypes.Proofs.BaseOrder

/-! Bounds below the item types. Unions and intersections of occurrences are exact: their ranges are the
hull and the overlap. The ancestors of an atomic type form a chain, so that the closest common ancestor of
two types is below all others, and types with a common descendant are comparable. A test that comes out of
an intersection accepts what both tests accept. -/

namespace SequenceTypes

namespace Occurrence

theorem boundLe_boundMin_iff {l m n : Option Nat} :
    boundLe l (boundMin m n) ↔ boundLe l m ∧ boundLe l n := by
  cases l <;> cases m <;> cases n <;> grind [boundLe, boundMin]

theorem boundMax_boundLe_iff {l m n : Option Nat} :
    boundLe (boundMax l m) n ↔ boundLe l n ∧ boundLe m n := by
  cases l <;> cases m <;> cases n <;> grind [boundLe, boundMax]

theorem zero_subtypeOf_iff {o : Occurrence} : zero.subtypeOf o ↔ o.lower = 0 := by
  cases o <;> simp [subtypeOf, lower, upper?, boundLe]

theorem lower_union (a b : Occurrence) : (a.union b).lower = min a.lower b.lower := by
  cases a <;> cases b <;> rfl

theorem upper?_union (a b : Occurrence) : (a.union b).upper? = boundMax a.upper? b.upper? := by
  cases a <;> cases b <;> rfl

/-- The union is the least range that covers both. -/
theorem union_subtypeOf_iff {a b c : Occurrence} :
    (a.union b).subtypeOf c ↔ a.subtypeOf c ∧ b.subtypeOf c := by
  rw [subtypeOf_iff, subtypeOf_iff, subtypeOf_iff, lower_union, upper?_union, boundMax_boundLe_iff,
    Nat.le_min]
  exact and_and_and_comm

theorem subtypeOf_union_left (a b : Occurrence) : a.subtypeOf (a.union b) :=
  (union_subtypeOf_iff.1 (subtypeOf_refl (a.union b))).1

theorem subtypeOf_union_right (a b : Occurrence) : b.subtypeOf (a.union b) :=
  (union_subtypeOf_iff.1 (subtypeOf_refl (a.union b))).2

theorem eq_zero_of_subtypeOf {o : Occurrence} (h : o.subtypeOf .zero) : o = .zero := by
  by_cases ho : o = .zero
  · exact ho
  · rw [not_subtypeOf_zero ho] at h
    cases h

theorem union_ne_zero_left {a : Occurrence} (ha : a ≠ .zero) (b : Occurrence) : a.union b ≠ .zero := by
  intro h
  exact ha (eq_zero_of_subtypeOf (h ▸ subtypeOf_union_left a b))

theorem union_ne_zero_right {b : Occurrence} (hb : b ≠ .zero) (a : Occurrence) : a.union b ≠ .zero := by
  intro h
  exact hb (eq_zero_of_subtypeOf (h ▸ subtypeOf_union_right a b))

/-- No range between two indicators is widened: an intersection is the overlap itself. -/
theorem range_of_intersect? {a b o : Occurrence} (h : a.intersect? b = some o) :
    o.lower = max a.lower b.lower ∧ o.upper? = boundMin a.upper? b.upper? := by
  cases a <;> cases b <;> cases h <;> exact ⟨rfl, rfl⟩

/-- The intersection is the greatest range that both cover. -/
theorem subtypeOf_intersect?_iff {a b c o : Occurrence} (h : a.intersect? b = some o) :
    c.subtypeOf o ↔ c.subtypeOf a ∧ c.subtypeOf b := by
  obtain ⟨hlower, hupper⟩ := range_of_intersect? h
  rw [subtypeOf_iff, subtypeOf_iff, subtypeOf_iff, hlower, hupper, boundLe_boundMin_iff, Nat.max_le]
  exact and_and_and_comm

theorem admits_intersect?_iff {a b o : Occurrence} (h : a.intersect? b = some o) {n : Nat} :
    o.admits n ↔ a.admits n ∧ b.admits n := by
  obtain ⟨hlower, hupper⟩ := range_of_intersect? h
  rw [admits_iff, admits_iff, admits_iff, hlower, hupper, boundLe_boundMin_iff, Nat.max_le]
  exact and_and_and_comm

theorem isSome_intersect?_of_admits {a b : Occurrence} {n : Nat} (ha : a.admits n) (hb : b.admits n) :
    (a.intersect? b).isSome := by
  rw [admits_iff] at ha hb
  have hlower : boundLe (some (max a.lower b.lower)) (some n) :=
    decide_eq_true (Nat.max_le.2 ⟨ha.1, hb.1⟩)
  have hupper : boundLe (some n) (boundMin a.upper? b.upper?) :=
    boundLe_boundMin_iff.2 ⟨ha.2, hb.2⟩
  have hrange : boundLe (some (max a.lower b.lower)) (boundMin a.upper? b.upper?) :=
    boundLe_trans hlower hupper
  rw [intersect?, if_pos hrange]
  rfl

theorem intersect?_ne_zero {a b o : Occurrence} (ha : a ≠ .zero) (hb : b ≠ .zero)
    (h : a.intersect? b = some o) : o ≠ .zero := by
  have hupper := (range_of_intersect? h).2
  rintro rfl
  revert hupper
  cases a <;> cases b <;> simp_all [upper?, boundMin]

end Occurrence

namespace AtomicType

/-- What follows a type in a list of ancestors are the ancestors of that type. -/
theorem ancestors_of_append {a c : AtomicType} {as bs : List AtomicType}
    (h : a.ancestors = as ++ c :: bs) : c.ancestors = c :: bs := by
  induction as generalizing a with
  | nil =>
      have hhead := ancestors_eq a
      rw [h] at hhead
      obtain ⟨rfl, _⟩ := List.cons.inj hhead
      exact h
  | cons x as ih =>
      rw [ancestors_eq] at h
      obtain ⟨rfl, htail⟩ := List.cons.inj h
      cases hp : a.parent? with
      | none => simp [hp] at htail
      | some p =>
          rw [hp] at htail
          exact ih htail

theorem subtypeOf_of_append {a c d : AtomicType} {as bs : List AtomicType}
    (h : a.ancestors = as ++ c :: bs) (hd : d ∈ c :: bs) : c.subtypeOf d := by
  rw [subtypeOf_iff_mem, ancestors_of_append h]
  exact hd

/-- Types with a common descendant lie on one branch. -/
theorem comparable_of_subtypeOf {a b d : AtomicType} (hda : d.subtypeOf a) (hdb : d.subtypeOf b) :
    a.subtypeOf b ∨ b.subtypeOf a := by
  rw [subtypeOf_iff_mem] at hda hdb
  obtain ⟨as, bs, h⟩ := List.append_of_mem hda
  rw [h] at hdb
  rcases List.mem_append.1 hdb with hb | hb
  · obtain ⟨cs, ds, rfl⟩ := List.append_of_mem hb
    rw [List.append_assoc] at h
    exact Or.inr (subtypeOf_of_append h (List.mem_cons_of_mem b (by simp)))
  · exact Or.inl (subtypeOf_of_append h hb)

theorem isSome_intersect?_of_subtypeOf {a b d : AtomicType} (hda : d.subtypeOf a) (hdb : d.subtypeOf b) :
    (a.intersect? b).isSome := by
  rw [intersect?]
  split
  · rfl
  · next hab =>
      rw [if_pos ((comparable_of_subtypeOf hda hdb).resolve_left hab)]
      rfl

/-- The closest common ancestor is derived from every other one. -/
theorem union?_subtypeOf {a b c d : AtomicType} (h : a.union? b = some c) (had : a.subtypeOf d)
    (hbd : b.subtypeOf d) : c.subtypeOf d := by
  rw [subtypeOf_iff_mem] at had
  obtain ⟨_, as, bs, hancestors, hfirst⟩ := List.find?_eq_some_iff_append.1 h
  rw [hancestors] at had
  rcases List.mem_append.1 had with hd | hd
  · have hnot := hfirst d hd
    rw [hbd] at hnot
    cases hnot
  · exact subtypeOf_of_append hancestors hd

theorem not_subtypeOf_of_union?_none {a b d : AtomicType} (h : a.union? b = none)
    (had : a.subtypeOf d) : ¬b.subtypeOf d :=
  List.find?_eq_none.1 h d (subtypeOf_iff_mem.1 had)

theorem subtypeOf_anyAtomic {a : AtomicType} (ha : a ≠ .nmtokens) : a.subtypeOf .anyAtomic := by
  cases a <;> first | rfl | exact absurd rfl ha

theorem isSome_union? {a b : AtomicType} (ha : a ≠ .nmtokens) (hb : b ≠ .nmtokens) :
    (a.union? b).isSome := by
  rw [Option.isSome_iff_ne_none]
  intro h
  exact not_subtypeOf_of_union?_none h (subtypeOf_anyAtomic ha) (subtypeOf_anyAtomic hb)

theorem subtypeOf_intersect?_iff {a b c d : AtomicType} (h : a.intersect? b = some c) :
    d.subtypeOf c ↔ d.subtypeOf a ∧ d.subtypeOf b := by
  unfold intersect? at h
  split at h
  · next hab =>
      cases h
      exact ⟨fun hd => ⟨hd, subtypeOf_trans hd hab⟩, And.left⟩
  · split at h
    · next hba =>
        cases h
        exact ⟨fun hd => ⟨subtypeOf_trans hd hba, hd⟩, And.right⟩
    · cases h

end AtomicType

namespace NodeKind

theorem comparable_of_subtypeOf {j k l : NodeKind} (hjk : j.subtypeOf k) (hjl : j.subtypeOf l) :
    k.subtypeOf l ∨ l.subtypeOf k := by
  rcases subtypeOf_iff.1 hjk with rfl | rfl
  · exact Or.inr (subtypeOf_iff.2 (Or.inl rfl))
  · exact Or.inl hjl

theorem subtypeOf_intersect?_iff {a b c k : NodeKind} (h : a.intersect? b = some c) :
    k.subtypeOf c ↔ k.subtypeOf a ∧ k.subtypeOf b := by
  simp only [subtypeOf_iff]
  unfold intersect? at h
  split at h
  · next hab =>
      cases h
      rw [← hab, and_self]
  · split at h
    · next ha =>
        cases h
        simp [ha]
    · split at h
      · next hb =>
          cases h
          simp [hb]
      · cases h

theorem not_subtypeOf_of_intersect?_none {a b k : NodeKind} (h : a.intersect? b = none) :
    ¬(k.subtypeOf a ∧ k.subtypeOf b) := by
  simp only [subtypeOf_iff]
  unfold intersect? at h
  grind

end NodeKind

namespace NameTest

theorem accepts_name_iff {a q : QName} :
    (name a).accepts q ↔ q.toExpandedName = a.toExpandedName := by
  show (q.toExpandedName == a.toExpandedName) = true ↔ _
  exact beq_iff_eq

theorem accepts_inNamespace_iff {uri : String} {q : QName} :
    (inNamespace uri).accepts q ↔ q.uri.getD "" = uri := by
  simp [accepts]

theorem accepts_localName_iff {l : String} {q : QName} :
    (localName l).accepts q ↔ q.localName = l := by
  simp [accepts]

/-- A test that accepts a name accepts every spelling of it. -/
theorem accepts_of_name {t : NameTest} {a q : QName} (ha : t.accepts a) (hq : (name a).accepts q) :
    t.accepts q := by
  rw [accepts_name_iff] at hq
  cases t with
  | name b =>
      rw [accepts_name_iff] at ha ⊢
      exact hq.trans ha
  | inNamespace uri =>
      rw [accepts_inNamespace_iff] at ha ⊢
      rw [hq]
      exact ha
  | localName l =>
      rw [accepts_localName_iff] at ha ⊢
      rw [hq]
      exact ha

theorem accepts_of_beq {s t : NameTest} {q : QName} (h : s == t) (hq : s.accepts q) : t.accepts q := by
  cases s <;> cases t <;> try cases h
  case name.name a b =>
    have hab : a.toExpandedName = b.toExpandedName := beq_iff_eq.1 h
    rw [accepts_name_iff] at hq ⊢
    exact hq.trans hab
  case inNamespace.inNamespace a b =>
    have hab : a = b := of_decide_eq_true h
    rw [← hab]
    exact hq
  case localName.localName a b =>
    have hab : a = b := of_decide_eq_true h
    rw [← hab]
    exact hq

theorem exists_accepts (t : NameTest) : ∃ q, t.accepts q := by
  cases t with
  | name a => exact ⟨a, accepts_name_iff.2 rfl⟩
  | inNamespace uri => exact ⟨⟨⟨some uri, ""⟩, none⟩, accepts_inNamespace_iff.2 rfl⟩
  | localName l => exact ⟨.ofLocal l, accepts_localName_iff.2 rfl⟩

/-- Whether two tests meet in the test for a name in no namespace, one of them asking for the namespace and
the other one for the local part. -/
def meetInNoNamespace : NameTest → NameTest → Bool
  | inNamespace uri, localName _ | localName _, inNamespace uri => uri = ""
  | _, _ => false

theorem meetInNoNamespace_of_beq {s t : NameTest} (h : s == t) : s.meetInNoNamespace t = false := by
  cases s <;> cases t <;> first | rfl | cases h

/-- A name put together from a namespace and a local part. In the namespace of the empty URI it has no URI, so
that a name with the empty URI is not accepted. -/
theorem accepts_inNamespace_localName_iff {uri l : String} {q : QName} :
    (name (.inNamespace uri l)).accepts q ↔
      (inNamespace uri).accepts q ∧ (localName l).accepts q ∧ (uri = "" → q.uri ≠ some "") := by
  rw [accepts_name_iff, accepts_inNamespace_iff, accepts_localName_iff]
  obtain ⟨⟨uri?, localName⟩, p⟩ := q
  show ExpandedName.mk uri? localName = ⟨(some uri).filter (· ≠ ""), l⟩ ↔ _
  rw [ExpandedName.mk.injEq, Option.filter_some]
  cases uri? with
  | none => by_cases huri : uri = "" <;> simp [huri, eq_comm]
  | some u => by_cases huri : uri = "" <;> grind

theorem accepts_name_comm {a q : QName} : (name a).accepts q ↔ (name q).accepts a := by
  rw [accepts_name_iff, accepts_name_iff]
  exact eq_comm

/-- The intersection accepts what both tests accept, except for names with the empty URI where the tests meet
in a name without URI. -/
theorem accepts_intersect?_iff {s t u : NameTest} (h : s.intersect? t = some u) {q : QName} :
    u.accepts q ↔ s.accepts q ∧ t.accepts q ∧ (s.meetInNoNamespace t → q.uri ≠ some "") := by
  cases s with
  | name a =>
      obtain ⟨ha, heq⟩ := Option.ite_none_right_eq_some.1 h
      cases heq
      simpa [meetInNoNamespace] using accepts_of_name ha
  | inNamespace a =>
      cases t with
      | name b =>
          obtain ⟨hb, heq⟩ := Option.ite_none_right_eq_some.1 h
          cases heq
          simpa [meetInNoNamespace] using accepts_of_name hb
      | inNamespace b =>
          obtain ⟨rfl, heq⟩ := Option.ite_none_right_eq_some.1 h
          cases heq
          simp [meetInNoNamespace]
      | localName l =>
          cases h
          simpa [meetInNoNamespace] using accepts_inNamespace_localName_iff
  | localName l =>
      cases t with
      | name b =>
          obtain ⟨hb, heq⟩ := Option.ite_none_right_eq_some.1 h
          cases heq
          simpa [meetInNoNamespace] using accepts_of_name hb
      | inNamespace b =>
          cases h
          rw [and_left_comm]
          simpa [meetInNoNamespace] using accepts_inNamespace_localName_iff
      | localName m =>
          obtain ⟨rfl, heq⟩ := Option.ite_none_right_eq_some.1 h
          cases heq
          simp [meetInNoNamespace]

theorem isSome_intersect? {s t : NameTest} {q : QName} (hs : s.accepts q) (ht : t.accepts q) :
    (s.intersect? t).isSome := by
  cases s with
  | name a =>
      have ha : t.accepts a = true := accepts_of_name ht (accepts_name_comm.1 hs)
      rw [intersect?, if_pos ha]
      rfl
  | inNamespace a =>
      cases t with
      | name b =>
          have hb := accepts_of_name hs (accepts_name_comm.1 ht)
          simp [intersect?, hb]
      | inNamespace b =>
          rw [accepts_inNamespace_iff] at hs ht
          rw [intersect?, if_pos (hs.symm.trans ht)]
          rfl
      | localName l => rfl
  | localName l =>
      cases t with
      | name b =>
          have hb := accepts_of_name hs (accepts_name_comm.1 ht)
          simp [intersect?, hb]
      | inNamespace b => rfl
      | localName m =>
          rw [accepts_localName_iff] at hs ht
          rw [intersect?, if_pos (hs.symm.trans ht)]
          rfl

end NameTest

namespace Node

/-- Whether the node has a name whose URI is present, and empty. No name that is put together from its parts
is of this form, but names that are read back from a record keep the URI they had there. -/
def hasEmptyUri (n : Node) : Bool := n.name?.any (·.uri = some "")

theorem hasEmptyUri_eq_false_iff {n : Node} {q : QName} (hq : n.name? = some q) :
    n.hasEmptyUri = false ↔ q.uri ≠ some "" := by
  simp [hasEmptyUri, hq]

end Node

namespace KindTest

theorem intersect?_eq_some_iff {a b c : KindTest} :
    a.intersect? b = some c ↔
      a.kind.intersect? b.kind = some c.kind ∧ a.names.intersect? b.names = some c.names := by
  unfold intersect?
  cases c
  simp [Option.bind_eq_some_iff]

theorem accepts_iff {t : KindTest} {n : Node} :
    t.accepts n ↔ n.kind.subtypeOf t.kind ∧ ∃ q, n.name? = some q ∧ t.names.accepts q := by
  cases hn : n.name? <;> simp [accepts, hn]

theorem accepts_intersect?_iff {a b c : KindTest} (h : a.intersect? b = some c) {n : Node} :
    c.accepts n ↔ a.accepts n ∧ b.accepts n ∧
      (a.names.meetInNoNamespace b.names → n.hasEmptyUri = false) := by
  obtain ⟨hkind, hnames⟩ := intersect?_eq_some_iff.1 h
  rw [accepts_iff, accepts_iff, accepts_iff, NodeKind.subtypeOf_intersect?_iff hkind]
  constructor
  · rintro ⟨⟨hka, hkb⟩, q, hq, hc⟩
    obtain ⟨ha, hb, huri⟩ := (NameTest.accepts_intersect?_iff hnames).1 hc
    refine ⟨⟨hka, q, hq, ha⟩, ⟨hkb, q, hq, hb⟩, fun hmeet => ?_⟩
    exact (Node.hasEmptyUri_eq_false_iff hq).2 (huri hmeet)
  · rintro ⟨⟨hka, q, hq, ha⟩, ⟨hkb, p, hp, hb⟩, huri⟩
    obtain rfl : q = p := Option.some.inj (hq.symm.trans hp)
    refine ⟨⟨hka, hkb⟩, q, hq, (NameTest.accepts_intersect?_iff hnames).2 ⟨ha, hb, fun hmeet => ?_⟩⟩
    exact (Node.hasEmptyUri_eq_false_iff hq).1 (huri hmeet)

theorem isSome_intersect? {a b : KindTest} {k : NodeKind} {q : QName} (hka : k.subtypeOf a.kind)
    (hkb : k.subtypeOf b.kind) (ha : a.names.accepts q) (hb : b.names.accepts q) :
    (a.intersect? b).isSome := by
  obtain ⟨names, hnames⟩ := Option.isSome_iff_exists.1 (NameTest.isSome_intersect? ha hb)
  cases hkind : a.kind.intersect? b.kind with
  | none => exact absurd ⟨hka, hkb⟩ (NodeKind.not_subtypeOf_of_intersect?_none hkind)
  | some kind =>
      rw [Option.isSome_iff_exists]
      exact ⟨⟨kind, names⟩, intersect?_eq_some_iff.2 ⟨hkind, hnames⟩⟩

theorem isSome_intersect?_of_accepts {a b : KindTest} {n : Node} (ha : a.accepts n) (hb : b.accepts n) :
    (a.intersect? b).isSome := by
  obtain ⟨hka, q, hq, hqa⟩ := accepts_iff.1 ha
  obtain ⟨hkb, p, hp, hpb⟩ := accepts_iff.1 hb
  obtain rfl : q = p := Option.some.inj (hq.symm.trans hp)
  exact isSome_intersect? hka hkb hqa hpb

theorem isSome_intersect?_of_intersect? {a b c : KindTest} (h : a.intersect? b = some c) :
    (c.intersect? a).isSome ∧ (c.intersect? b).isSome := by
  obtain ⟨hkind, hnames⟩ := intersect?_eq_some_iff.1 h
  obtain ⟨hka, hkb⟩ := (NodeKind.subtypeOf_intersect?_iff hkind).1 c.kind.subtypeOf_refl
  obtain ⟨q, hq⟩ := c.names.exists_accepts
  obtain ⟨ha, hb, -⟩ := (NameTest.accepts_intersect?_iff hnames).1 hq
  exact ⟨isSome_intersect? c.kind.subtypeOf_refl hka hq ha,
    isSome_intersect? c.kind.subtypeOf_refl hkb hq hb⟩

theorem beq_iff {a b : KindTest} : a == b ↔ a.kind = b.kind ∧ a.names == b.names := by
  show (decide (a.kind = b.kind) && a.names == b.names) = true ↔ _
  simp

theorem accepts_of_beq {a b : KindTest} {n : Node} (h : a == b) (ha : a.accepts n) : b.accepts n := by
  obtain ⟨hkind, hnames⟩ := beq_iff.1 h
  obtain ⟨hka, q, hq, hqa⟩ := accepts_iff.1 ha
  exact accepts_iff.2 ⟨hkind ▸ hka, q, hq, NameTest.accepts_of_beq hnames hqa⟩

theorem isSome_intersect?_of_beq {a b : KindTest} (h : a == b) :
    (a.intersect? b).isSome ∧ (b.intersect? a).isSome := by
  obtain ⟨hkind, hnames⟩ := beq_iff.1 h
  obtain ⟨q, ha⟩ := a.names.exists_accepts
  have hb := NameTest.accepts_of_beq hnames ha
  have hkb : a.kind.subtypeOf b.kind := hkind ▸ a.kind.subtypeOf_refl
  exact ⟨isSome_intersect? a.kind.subtypeOf_refl hkb ha hb,
    isSome_intersect? hkb a.kind.subtypeOf_refl hb ha⟩

end KindTest

/-- The test that a union keeps overlaps the tests of both types. -/
theorem testsOverlap_commonTest (k l : Option KindTest) :
    testsOverlap k (commonTest k l) ∧ testsOverlap l (commonTest k l) := by
  unfold commonTest
  split
  · next s t =>
      split
      · next hst => exact ⟨testsOverlap_self _, (KindTest.isSome_intersect?_of_beq hst).2⟩
      · exact ⟨rfl, rfl⟩
  · exact ⟨rfl, rfl⟩

theorem testsOverlap_of_mergeTests? {k l m : Option KindTest} (h : mergeTests? k l = some m) :
    testsOverlap m k ∧ testsOverlap m l := by
  unfold mergeTests? at h
  split at h
  · cases h
    exact ⟨rfl, testsOverlap_self _⟩
  · cases h
    exact ⟨testsOverlap_self _, rfl⟩
  · next s t =>
      split at h
      · next hst =>
          cases h
          exact ⟨testsOverlap_self _, (KindTest.isSome_intersect?_of_beq hst).1⟩
      · obtain ⟨u, hu, rfl⟩ := Option.map_eq_some_iff.1 h
        exact KindTest.isSome_intersect?_of_intersect? hu

end SequenceTypes
