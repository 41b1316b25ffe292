import SequenceTypes.Catalog.Static
import SequenceTypes.Proofs.LatticeLaws
import SequenceTypes.Proofs.ValueErasure

/-! Computations with the catalogue. They only add entries, each a single type and different from those before,
and what they give is, up to the prefixes of names, what the same computation gives without a catalogue. -/

namespace SequenceTypes

variable {α β γ δ : Type}

/-- Two optional values that agree after a map are both missing, or both there and agree themselves. -/
theorem cases_of_map_eq_map {e : α → γ} {x? y? : Option α} (h : x?.map e = y?.map e) :
    (x? = none ∧ y? = none) ∨ ∃ x y, x? = some x ∧ y? = some y ∧ e x = e y := by
  cases x? with
  | none => exact Or.inl ⟨rfl, Option.map_eq_none_iff.1 h.symm⟩
  | some x =>
      obtain ⟨y, hy, hyx⟩ := Option.map_eq_some_iff.1 h.symm
      exact Or.inr ⟨x, y, rfl, hy, hyx.symm⟩

/-- Constructors that keep agreement do so under an option. -/
theorem map_map_eq_map_map {e : α → γ} {e' : β → δ} {f g : α → β}
    (hfg : ∀ x y, e x = e y → e' (f x) = e' (g y)) {x? y? : Option α} (h : x?.map e = y?.map e) :
    (x?.map f).map e' = (y?.map g).map e' := by
  obtain ⟨rfl, rfl⟩ | ⟨x, y, rfl, rfl, hxy⟩ := cases_of_map_eq_map h
  · rfl
  · exact congrArg some (hfg x y hxy)

namespace Catalog

/-- Whether a type can stand for an item type: it is a single type without test of that item type. -/
structure Represents (s : SeqType) (t : ItemType) : Prop where
  occurrence : s.occurrence = .one
  test? : s.test? = none
  itemType : s.itemType == t

/-- Every entry stands for its key, and no two keys are equal. -/
structure WellFormed (c : Catalog) : Prop where
  represents : ∀ e ∈ c.entries, Represents e.type e.key
  distinct : c.entries.Pairwise fun d e => ¬d.key == e.key

/-- A catalogue is a later state of another: entries come at the end. -/
structure Grows (c c' : Catalog) : Prop where
  entries : c.entries <+: c'.entries
  wellFormed : c'.WellFormed

theorem wellFormed_empty : empty.WellFormed := ⟨by simp [empty], List.Pairwise.nil⟩

theorem WellFormed.grows {c : Catalog} (hc : c.WellFormed) : c.Grows c := ⟨List.prefix_refl _, hc⟩

theorem Grows.trans {c c' c'' : Catalog} (h : c.Grows c') (h' : c'.Grows c'') : c.Grows c'' :=
  ⟨h.entries.trans h'.entries, h'.wellFormed⟩

theorem represents_single (t : ItemType) : Represents t.single t := ⟨rfl, rfl, beq_self_eq_true t⟩

theorem Represents.bare_eq {s : SeqType} {t : ItemType} (h : Represents s t) : s.bare = t.single.bare := by
  obtain ⟨hone, htest, htype⟩ := h
  cases s with
  | empty => cases hone
  | of u o k ho =>
      cases hone
      cases htest
      rw [← t.single_bare, ← ItemType.beq_iff_bare.1 htype]
      exact u.single_bare.symm

theorem WellFormed.represents_of_find? {c : Catalog} (hc : c.WellFormed) {t : ItemType} {r : SeqType}
    (h : c.find? t = some r) : Represents r t := by
  obtain ⟨e, he, rfl⟩ := Option.map_eq_some_iff.1 h
  obtain ⟨hone, htest, hkey⟩ := hc.represents e (List.mem_of_find?_eq_some he)
  have hfound : e.key == t := List.find?_some (p := fun e : Entry => e.key == t) he
  refine ⟨hone, htest, ItemType.beq_iff_bare.2 ?_⟩
  exact (ItemType.beq_iff_bare.1 hkey).trans (ItemType.beq_iff_bare.1 hfound)

/-- An entry stays the representative of its types. -/
theorem Grows.find?_eq_some {c c' : Catalog} (h : c.Grows c') {t : ItemType} {r : SeqType}
    (hr : c.find? t = some r) : c'.find? t = some r := by
  obtain ⟨added, hadded⟩ := h.entries
  obtain ⟨e, he, rfl⟩ := Option.map_eq_some_iff.1 hr
  rw [find?, ← hadded, List.find?_append, he, Option.some_or, Option.map_some]

/-- A type without entry can be added. -/
theorem WellFormed.grows_append {c : Catalog} (hc : c.WellFormed) {t : ItemType} (ht : c.find? t = none) :
    c.Grows ⟨c.entries ++ [⟨t, t.single⟩]⟩ := by
  refine ⟨List.prefix_append _ _, ?_, ?_⟩
  · intro e he
    rcases List.mem_append.1 he with he | he
    · exact hc.represents e he
    · rw [List.mem_singleton.1 he]
      exact represents_single t
  · refine List.pairwise_append.2 ⟨hc.distinct, List.pairwise_singleton _ _, ?_⟩
    intro d hd e he hde
    obtain rfl := List.mem_singleton.1 he
    exact List.find?_eq_none.1 (Option.map_eq_none_iff.1 ht) d hd hde

/-- From every catalogue a computation gives a result with a property, and the catalogue only grows. -/
def Yields (m : StateM Catalog α) (P : α → Prop) : Prop :=
  ∀ c : Catalog, c.WellFormed → P (m c).1 ∧ c.Grows (m c).2

theorem yields_pure {P : α → Prop} {a : α} (ha : P a) : Yields (pure a) P :=
  fun _ hc => ⟨ha, hc.grows⟩

theorem Yields.bind {m : StateM Catalog α} {f : α → StateM Catalog β} {P : α → Prop} {Q : β → Prop}
    (hm : Yields m P) (hf : ∀ a, P a → Yields (f a) Q) : Yields (m >>= f) Q := by
  intro c hc
  obtain ⟨ha, hgrows⟩ := hm c hc
  obtain ⟨hb, hgrows'⟩ := hf (m c).1 ha (m c).2 hgrows.wellFormed
  exact ⟨hb, hgrows.trans hgrows'⟩

theorem Yields.map {m : StateM Catalog α} {f : α → β} {P : α → Prop} {Q : β → Prop}
    (hm : Yields m P) (hf : ∀ a, P a → Q (f a)) : Yields (f <$> m) Q :=
  fun c hc => ⟨hf _ (hm c hc).1, (hm c hc).2⟩

/-- A question, and then the computation that its answer calls for. -/
theorem Yields.bind_eq {m : StateM Catalog Bool} {f : Bool → StateM Catalog β} {b : Bool} {Q : β → Prop}
    (hm : Yields m (· = b)) (hf : Yields (f b) Q) : Yields (m >>= f) Q :=
  hm.bind fun _ h => h ▸ hf

theorem yields_allM {f : α → StateM Catalog Bool} {p : α → Bool} {l : List α}
    (h : ∀ a ∈ l, Yields (f a) (· = p a)) : Yields (l.allM f) (· = l.all p) := by
  induction l with
  | nil => exact yields_pure rfl
  | cons a l ih =>
      obtain ⟨ha, hl⟩ := List.forall_mem_cons.1 h
      refine ha.bind_eq ?_
      cases hp : p a with
      | false => exact yields_pure (by rw [List.all_cons, hp, Bool.false_and])
      | true =>
          rw [List.all_cons, hp, Bool.true_and]
          exact ih hl

/-- The representative of a type is the type up to prefixes. -/
theorem yields_intern (t : ItemType) : Yields (intern t) (·.bare = t.single.bare) := by
  intro c hc
  unfold intern
  cases hfind : c.find? t with
  | some r => exact ⟨(hc.represents_of_find? hfind).bare_eq, hc.grows⟩
  | none => exact ⟨rfl, hc.grows_append hfind⟩

/-- The form of a type that is known up to prefixes. -/
theorem yields_form {t u : ItemType} (htu : t.bare = u.bare) (o : Occurrence) (k : Option KindTest) :
    Yields (form t o k) (·.bare = (SeqType.make u o k).bare) := by
  rw [← SeqType.make_bare, ← htu, SeqType.make_bare]
  unfold form
  split
  · next h =>
      obtain ⟨rfl, hk⟩ : o = .one ∧ k = none := by simpa using h
      subst hk
      exact yields_intern t
  · exact yields_pure rfl

end Catalog

open Catalog

theorem SeqType.yields_settle (s : SeqType) : Yields s.settle (·.bare = s.bare) := by
  have hs : make s.itemType s.occurrence s.test? = s := by
    cases s with
    | empty => rfl
    | of t o k h => exact make_of_ne_zero t k h
  have h := yields_form (t := s.itemType) rfl s.occurrence s.test?
  rwa [hs] at h

theorem ItemType.yields_settledLookup? (t : ItemType) :
    Yields t.settledLookup? (·.map FunctionType.bare = t.lookup?.map FunctionType.bare) := by
  cases t with
  | map k v =>
      refine (yields_intern _).bind fun key hkey => ?_
      refine (SeqType.yields_settle _).bind fun value hvalue => yields_pure ?_
      simp only [lookup?, FunctionType.ofMap, Option.map_some, FunctionType.bare, SeqType.bareAll, hkey, hvalue]
  | array m =>
      refine (yields_intern _).bind fun position hposition => yields_pure ?_
      simp only [lookup?, FunctionType.ofArray, Option.map_some, FunctionType.bare, SeqType.bareAll, hposition]
  | _ => exact yields_pure rfl

/-- Subtyping of item types below a weight, with the catalogue and without. -/
def SettledSubtypeBelow (n : Nat) : Prop := ∀ a b : ItemType, a.weight + b.weight < n →
  Yields (a.settledSubtypeOf b) (· = a.subtypeOf b)

namespace SettledSubtypeBelow

variable {n : Nat}

theorem seq (ih : SettledSubtypeBelow n) {a b : SeqType} (hn : a.weight + b.weight ≤ n) :
    Yields (a.settledSubtypeOf b) (· = a.subtypeOf b) := by
  have hwb := b.itemType_weight_lt
  cases a with
  | empty =>
      rw [SeqType.settledSubtypeOf, SeqType.subtypeOf]
      exact yields_pure rfl
  | of t o k ho =>
      simp only [SeqType.weight] at hn
      rw [SeqType.settledSubtypeOf, SeqType.subtypeOf]
      refine (ih t b.itemType (by omega)).bind_eq ?_
      cases t.subtypeOf b.itemType <;> exact yields_pure rfl

theorem all (ih : SettledSubtypeBelow n) {ps qs : List SeqType}
    (hn : SeqType.weightAll ps + SeqType.weightAll qs ≤ n) :
    Yields (SeqType.settledSubtypeOfAll ps qs) (· = SeqType.subtypeOfAll ps qs) := by
  induction ps generalizing qs with
  | nil =>
      rw [SeqType.settledSubtypeOfAll.eq_def]
      exact yields_pure rfl
  | cons p ps ihps =>
      cases qs with
      | nil =>
          rw [SeqType.settledSubtypeOfAll.eq_def]
          exact yields_pure rfl
      | cons q qs =>
          simp only [SeqType.weightAll] at hn
          rw [SeqType.settledSubtypeOfAll, SeqType.subtypeOfAll]
          refine (ih.seq (by omega)).bind_eq ?_
          cases p.subtypeOf q with
          | false => exact yields_pure rfl
          | true => exact ihps (by omega)

theorem function (ih : SettledSubtypeBelow n) {f g : FunctionType} (hn : f.weight + g.weight ≤ n) :
    Yields (f.settledSubtypeOf g) (· = f.subtypeOf g) := by
  rw [FunctionType.settledSubtypeOf.eq_def]
  split
  · next ps r qs s =>
      simp only [FunctionType.weight] at hn
      rw [FunctionType.subtypeOf.eq_def]
      dsimp only
      by_cases hlength : ps.length = qs.length
      · rw [if_pos hlength]
        refine (ih.all (by omega)).bind_eq ?_
        cases SeqType.subtypeOfAll qs ps with
        | false => exact yields_pure rfl
        | true => exact ih.seq (by omega)
      · have hparams : SeqType.subtypeOfAll qs ps = false :=
          Bool.eq_false_iff.2 fun h => hlength (SeqType.length_eq_of_subtypeOfAll h).symm
        rw [if_neg hlength, hparams]
        exact yields_pure rfl
  · exact yields_pure rfl

theorem item (ih : SettledSubtypeBelow n) {a b : ItemType} (hn : a.weight + b.weight ≤ n) :
    Yields (a.settledSubtypeOf b) (· = a.subtypeOf b) := by
  rw [ItemType.settledSubtypeOf.eq_def]
  split
  · simp only [ItemType.weight] at hn
    rw [ItemType.subtypeOf.eq_def]
    exact ih.function (by omega)
  · next k v l w =>
      simp only [ItemType.weight] at hn
      rw [ItemType.subtypeOf.eq_def]
      dsimp only
      cases k.subtypeOf l with
      | false => exact yields_pure rfl
      | true => exact ih.seq (by omega)
  · simp only [ItemType.weight] at hn
    rw [ItemType.subtypeOf.eq_def]
    exact ih.seq (by omega)
  · next k v g =>
      simp only [ItemType.weight] at hn
      have hweight := FunctionType.weight_ofMap_le v
      rw [ItemType.subtypeOf.eq_def]
      exact (yields_intern _).bind fun _ _ => ih.function (by omega)
  · next m g =>
      simp only [ItemType.weight] at hn
      have hweight := FunctionType.weight_ofArray m
      rw [ItemType.subtypeOf.eq_def]
      exact (yields_intern _).bind fun _ _ => ih.function (by omega)
  · exact yields_pure rfl

end SettledSubtypeBelow

theorem settledSubtypeBelow (n : Nat) : SettledSubtypeBelow n := by
  induction n with
  | zero => exact fun _ _ hn => absurd hn (Nat.not_lt_zero _)
  | succ n ih => exact fun _ _ hn => ih.item (Nat.le_of_lt_succ hn)

theorem ItemType.yields_settledSubtypeOf (a b : ItemType) :
    Yields (a.settledSubtypeOf b) (· = a.subtypeOf b) :=
  (settledSubtypeBelow _).item (Nat.le_refl _)

theorem SeqType.yields_settledSubtypeOf (a b : SeqType) :
    Yields (a.settledSubtypeOf b) (· = a.subtypeOf b) :=
  (settledSubtypeBelow _).seq (Nat.le_refl _)

/-! ### Union and intersection -/

namespace SeqType

/-- Lists of parameters that differ in length have no intersection. -/
theorem intersectAll?_of_length_ne {ps qs : List SeqType} (hlength : ps.length ≠ qs.length) :
    intersectAll? ps qs = none := by
  induction ps generalizing qs with
  | nil =>
      cases qs with
      | nil => exact absurd rfl hlength
      | cons q qs => simp [intersectAll?]
  | cons p ps ih =>
      cases qs with
      | nil => simp [intersectAll?]
      | cons q qs =>
          have htail : ps.length ≠ qs.length := fun h => hlength (congrArg Nat.succ h)
          rw [intersectAll?, ih htail]
          cases p.intersect? q <;> rfl

theorem unionAll?_of_length_ne {ps qs : List SeqType} (hlength : ps.length ≠ qs.length) :
    unionAll? ps qs = none := by
  induction ps generalizing qs with
  | nil =>
      cases qs with
      | nil => exact absurd rfl hlength
      | cons q qs => simp [unionAll?]
  | cons p ps ih =>
      cases qs with
      | nil => simp [unionAll?]
      | cons q qs =>
          have htail : ps.length ≠ qs.length := fun h => hlength (congrArg Nat.succ h)
          rw [unionAll?, ih htail, Option.map_none]

end SeqType

/-- Union and intersection of item types below a weight, with the catalogue and without. -/
structure SettledBelow (n : Nat) : Prop where
  union : ∀ a b : ItemType, a.weight + b.weight < n →
    Yields (a.settledUnion b) (·.bare = (a.union b).bare)
  intersect : ∀ a b : ItemType, a.weight + b.weight < n →
    Yields (a.settledIntersect? b) (·.map ItemType.bare = (a.intersect? b).map ItemType.bare)

namespace SettledBelow

variable {n : Nat}

theorem seq_union (ih : SettledBelow n) {a b : SeqType} (hn : a.weight + b.weight ≤ n) :
    Yields (a.settledUnion b) (·.bare = (a.union b).bare) := by
  cases a with
  | empty =>
      rw [SeqType.settledUnion, SeqType.union]
      exact yields_form rfl _ _
  | of t o k ho =>
      cases b with
      | empty =>
          rw [SeqType.settledUnion, SeqType.union]
          exact yields_form rfl _ _
      | of u p l hp =>
          simp only [SeqType.weight] at hn
          rw [SeqType.settledUnion, SeqType.union]
          split
          · exact yields_form rfl _ _
          · exact (ih.union t u (by omega)).bind fun cover hcover => yields_form hcover (o.union p) none

theorem seq_intersect (ih : SettledBelow n) {a b : SeqType} (hn : a.weight + b.weight ≤ n) :
    Yields (a.settledIntersect? b) (·.map SeqType.bare = (a.intersect? b).map SeqType.bare) := by
  have hwa := a.itemType_weight_lt
  have hwb := b.itemType_weight_lt
  rw [SeqType.settledIntersect?, SeqType.intersect?]
  cases a.occurrence.intersect? b.occurrence with
  | none => exact yields_pure rfl
  | some o =>
      refine (ih.intersect a.itemType b.itemType (by omega)).bind fun t? ht => ?_
      obtain ⟨rfl, hcommon⟩ | ⟨t, u, rfl, hcommon, htu⟩ := cases_of_map_eq_map ht
      · rw [hcommon]
        exact yields_pure rfl
      · rw [hcommon]
        cases mergeTests? a.test? b.test? with
        | none => exact yields_pure rfl
        | some k => exact (yields_form htu o k).bind fun s hs => yields_pure (congrArg some hs)

theorem all_union (ih : SettledBelow n) {ps qs : List SeqType} (hlength : ps.length = qs.length)
    (hn : SeqType.weightAll ps + SeqType.weightAll qs ≤ n) :
    Yields (SeqType.settledUnionAll ps qs)
      (fun rs => some (SeqType.bareAll rs) = (SeqType.unionAll? ps qs).map SeqType.bareAll) := by
  induction ps generalizing qs with
  | nil =>
      cases qs with
      | nil =>
          rw [SeqType.settledUnionAll, SeqType.unionAll?]
          · exact yields_pure rfl
          · simp
      | cons q qs => cases hlength
  | cons p ps ihps =>
      cases qs with
      | nil => cases hlength
      | cons q qs =>
          simp only [SeqType.weightAll] at hn
          rw [SeqType.settledUnionAll, SeqType.unionAll?]
          refine (ih.seq_union (by omega)).bind fun r hr => ?_
          refine (ihps (Nat.succ.inj hlength) (by omega)).bind fun rs hrs => yields_pure ?_
          cases hunion : SeqType.unionAll? ps qs with
          | none => rw [hunion] at hrs; cases hrs
          | some us =>
              rw [hunion] at hrs
              simp only [Option.map_some, Option.some.injEq] at hrs ⊢
              rw [SeqType.bareAll, SeqType.bareAll, hr, hrs]

theorem all_intersect (ih : SettledBelow n) {ps qs : List SeqType} (hlength : ps.length = qs.length)
    (hn : SeqType.weightAll ps + SeqType.weightAll qs ≤ n) :
    Yields (SeqType.settledIntersectAll? ps qs)
      (·.map SeqType.bareAll = (SeqType.intersectAll? ps qs).map SeqType.bareAll) := by
  induction ps generalizing qs with
  | nil =>
      cases qs with
      | nil =>
          rw [SeqType.settledIntersectAll?, SeqType.intersectAll?]
          · exact yields_pure rfl
          · simp
      | cons q qs => cases hlength
  | cons p ps ihps =>
      cases qs with
      | nil => cases hlength
      | cons q qs =>
          simp only [SeqType.weightAll] at hn
          rw [SeqType.settledIntersectAll?, SeqType.intersectAll?]
          refine (ih.seq_intersect (by omega)).bind fun r? hr => ?_
          obtain ⟨rfl, hcommon⟩ | ⟨r, u, rfl, hcommon, hru⟩ := cases_of_map_eq_map hr
          · rw [hcommon]
            exact yields_pure rfl
          · rw [hcommon]
            refine (ihps (Nat.succ.inj hlength) (by omega)).bind fun rs? hrs => yields_pure ?_
            refine map_map_eq_map_map (fun rs us hrus => ?_) hrs
            rw [SeqType.bareAll, SeqType.bareAll, hru, hrus]

theorem function_union (ih : SettledBelow n) {f g : FunctionType} (hn : f.weight + g.weight ≤ n) :
    Yields (f.settledUnion g) (·.bare = (f.union g).bare) := by
  cases f with
  | any =>
      cases g <;> simp only [FunctionType.settledUnion, FunctionType.union] <;> exact yields_pure rfl
  | of ps r =>
      cases g with
      | any =>
          simp only [FunctionType.settledUnion, FunctionType.union]
          exact yields_pure rfl
      | of qs s =>
          simp only [FunctionType.weight] at hn
          rw [FunctionType.settledUnion, FunctionType.union]
          by_cases hlength : ps.length = qs.length
          · rw [if_pos hlength]
            refine (ih.all_intersect hlength (by omega)).bind fun params? hparams => ?_
            obtain ⟨rfl, hall⟩ | ⟨params, us, rfl, hall, hus⟩ := cases_of_map_eq_map hparams
            · rw [hall]
              exact yields_pure rfl
            · rw [hall]
              refine (ih.seq_union (by omega)).bind fun result hresult => yields_pure ?_
              rw [FunctionType.bare, FunctionType.bare, hus, hresult]
          · rw [if_neg hlength, SeqType.intersectAll?_of_length_ne hlength]
            exact yields_pure rfl

theorem function_intersect (ih : SettledBelow n) {f g : FunctionType} (hn : f.weight + g.weight ≤ n) :
    Yields (f.settledIntersect? g)
      (·.map FunctionType.bare = (f.intersect? g).map FunctionType.bare) := by
  cases f with
  | any =>
      cases g <;> simp only [FunctionType.settledIntersect?, FunctionType.intersect?] <;>
        exact yields_pure rfl
  | of ps r =>
      cases g with
      | any =>
          simp only [FunctionType.settledIntersect?, FunctionType.intersect?]
          exact yields_pure rfl
      | of qs s =>
          simp only [FunctionType.weight] at hn
          rw [FunctionType.settledIntersect?, FunctionType.intersect?]
          by_cases hlength : ps.length = qs.length
          · rw [if_pos hlength]
            refine (ih.all_union hlength (by omega)).bind fun params hparams => ?_
            refine (ih.seq_intersect (by omega)).bind fun result? hresult => yields_pure ?_
            obtain ⟨us, hall, hus⟩ := Option.map_eq_some_iff.1 hparams.symm
            rw [hall, Option.bind_some]
            refine map_map_eq_map_map (fun x y hxy => ?_) hresult
            rw [FunctionType.bare, FunctionType.bare, hus, hxy]
          · rw [if_neg hlength, SeqType.unionAll?_of_length_ne hlength]
            exact yields_pure rfl

theorem item_union (ih : SettledBelow n) {a b : ItemType} (hn : a.weight + b.weight ≤ n) :
    Yields (a.settledUnion b) (·.bare = (a.union b).bare) := by
  rw [ItemType.settledUnion.eq_def]
  refine (a.yields_settledSubtypeOf b).bind_eq ?_
  by_cases hab : a.subtypeOf b
  · rw [if_pos hab, ItemType.union_of_subtypeOf hab]
    exact yields_pure rfl
  rw [if_neg hab]
  refine (b.yields_settledSubtypeOf a).bind_eq ?_
  by_cases hba : b.subtypeOf a
  · rw [if_pos hba, ItemType.union_of_supertype hab hba]
    exact yields_pure rfl
  rw [if_neg hba]
  split
  · next k v l w =>
      simp only [ItemType.weight] at hn
      refine (ih.seq_union (by omega)).bind fun value hvalue => yields_pure ?_
      rw [ItemType.union.eq_def, if_neg hab, if_neg hba, ItemType.bare, hvalue]
      rfl
  · next m o =>
      simp only [ItemType.weight] at hn
      refine (ih.seq_union (by omega)).bind fun member hmember => yields_pure ?_
      rw [ItemType.union.eq_def, if_neg hab, if_neg hba, ItemType.bare, hmember]
      rfl
  · next f g =>
      simp only [ItemType.weight] at hn
      refine (ih.function_union (by omega)).bind fun type htype => yields_pure ?_
      rw [ItemType.union.eq_def, if_neg hab, if_neg hba, ItemType.bare, htype]
      rfl
  · exact yields_pure rfl

theorem item_intersect (ih : SettledBelow n) {a b : ItemType} (hn : a.weight + b.weight ≤ n) :
    Yields (a.settledIntersect? b) (·.map ItemType.bare = (a.intersect? b).map ItemType.bare) := by
  rw [ItemType.settledIntersect?.eq_def]
  refine (a.yields_settledSubtypeOf b).bind_eq ?_
  by_cases hab : a.subtypeOf b
  · rw [if_pos hab, ItemType.intersect?_of_subtypeOf hab]
    exact yields_pure rfl
  rw [if_neg hab]
  refine (b.yields_settledSubtypeOf a).bind_eq ?_
  by_cases hba : b.subtypeOf a
  · rw [if_pos hba, ItemType.intersect?_of_supertype hab hba]
    exact yields_pure rfl
  rw [if_neg hba]
  split
  · next f g =>
      simp only [ItemType.weight] at hn
      refine (ih.function_intersect (by omega)).bind fun type? htype => yields_pure ?_
      rw [ItemType.intersect?.eq_def, if_neg hab, if_neg hba]
      refine map_map_eq_map_map (fun x y hxy => ?_) htype
      exact congrArg ItemType.function hxy
  · next k v l w =>
      simp only [ItemType.weight] at hn
      have hcommon : (ItemType.map k v).intersect? (ItemType.map l w) =
          (k.intersect? l).bind fun key => (v.intersect? w).map (ItemType.map key) := by
        rw [ItemType.intersect?.eq_def, if_neg hab, if_neg hba]
      rw [hcommon]
      cases k.intersect? l with
      | none => exact yields_pure rfl
      | some key =>
          refine (ih.seq_intersect (by omega)).bind fun value? hvalue => yields_pure ?_
          refine map_map_eq_map_map (fun x y hxy => ?_) hvalue
          exact congrArg (ItemType.map key) hxy
  · next m o =>
      simp only [ItemType.weight] at hn
      refine (ih.seq_intersect (by omega)).bind fun member? hmember => yields_pure ?_
      rw [ItemType.intersect?.eq_def, if_neg hab, if_neg hba]
      refine map_map_eq_map_map (fun x y hxy => ?_) hmember
      exact congrArg ItemType.array hxy
  · exact yields_pure rfl

end SettledBelow

theorem settledBelow (n : Nat) : SettledBelow n := by
  induction n with
  | zero =>
      exact ⟨fun _ _ hn => absurd hn (Nat.not_lt_zero _), fun _ _ hn => absurd hn (Nat.not_lt_zero _)⟩
  | succ n ih =>
      exact ⟨fun _ _ hn => ih.item_union (Nat.le_of_lt_succ hn),
        fun _ _ hn => ih.item_intersect (Nat.le_of_lt_succ hn)⟩

theorem ItemType.yields_settledUnion (a b : ItemType) :
    Yields (a.settledUnion b) (·.bare = (a.union b).bare) :=
  (settledBelow _).item_union (Nat.le_refl _)

theorem ItemType.yields_settledIntersect? (a b : ItemType) :
    Yields (a.settledIntersect? b) (·.map bare = (a.intersect? b).map bare) :=
  (settledBelow _).item_intersect (Nat.le_refl _)

theorem SeqType.yields_settledUnion (a b : SeqType) :
    Yields (a.settledUnion b) (·.bare = (a.union b).bare) :=
  (settledBelow _).seq_union (Nat.le_refl _)

theorem SeqType.yields_settledIntersect? (a b : SeqType) :
    Yields (a.settledIntersect? b) (·.map bare = (a.intersect? b).map bare) :=
  (settledBelow _).seq_intersect (Nat.le_refl _)

/-- A fold of unions with the catalogue, from a type that is known up to prefixes. -/
theorem Sequence.yields_foldlM_settledUnion {t u : ItemType} (htu : t.bare = u.bare) (v : Sequence) :
    Yields (v.foldlM (fun t i => t.settledUnion i.runtimeType) t)
      (·.bare = (v.foldl (fun t i => t.union i.runtimeType) u).bare) := by
  induction v generalizing t u with
  | nil => exact yields_pure htu
  | cons i is ih =>
      rw [List.foldlM_cons, List.foldl_cons]
      refine (t.yields_settledUnion i.runtimeType).bind fun s hs => ih ?_
      rw [hs, ← ItemType.union_bare, htu, ItemType.union_bare]

theorem Sequence.yields_settledStaticType (v : Sequence) :
    Yields v.settledStaticType (·.bare = v.staticType.bare) := by
  cases v with
  | nil => exact yields_pure rfl
  | cons first rest =>
      rw [settledStaticType, staticType]
      split
      · exact yields_form rfl _ none
      · exact (yields_foldlM_settledUnion rfl rest).bind fun t ht => yields_form ht _ none

theorem yields_foldlM_cover {s t : SeqType} (hst : s.bare = t.bare) (vs : List Sequence) :
    Yields (vs.foldlM (fun s v => do s.settledUnion (← v.settledStaticType)) s)
      (·.bare = (vs.foldl (fun s v => s.union v.staticType) t).bare) := by
  induction vs generalizing s t with
  | nil => exact yields_pure hst
  | cons v vs ih =>
      rw [List.foldlM_cons, List.foldl_cons]
      refine Yields.bind (P := (·.bare = (t.union v.staticType).bare)) ?_ fun w hw => ih hw
      refine v.yields_settledStaticType.bind fun u hu => ?_
      rw [← SeqType.union_bare, ← hst, ← hu, SeqType.union_bare]
      exact s.yields_settledUnion u

theorem yields_settledCover (vs : List Sequence) :
    Yields (settledCover vs) (·.bare = (coverSequences vs).bare) := by
  cases vs with
  | nil => exact yields_pure rfl
  | cons v vs => exact v.yields_settledStaticType.bind fun s hs => yields_foldlM_cover hs vs

theorem Item.yields_settledContentType (i : Item) :
    Yields i.settledContentType (·.bare = i.contentType.bare) := by
  cases i with
  | map entries =>
      rw [settledContentType, contentType]
      refine (yields_settledCover _).bind fun s hs => yields_pure ?_
      rw [ItemType.bare, ItemType.bare, hs]
  | array members =>
      rw [settledContentType, contentType]
      refine (yields_settledCover _).bind fun s hs => yields_pure ?_
      rw [ItemType.bare, ItemType.bare, hs]
  | _ => exact yields_pure rfl

/-! ### Questions -/

/-- A content type that is known up to prefixes decides like the content type. -/
theorem Item.yields_settledContentType_subtypeOf (i : Item) (t : ItemType) :
    Yields (i.settledContentType >>= fun content => content.settledSubtypeOf t)
      (· = i.contentType.subtypeOf t) := by
  refine i.yields_settledContentType.bind fun content hcontent => ?_
  rw [← ItemType.subtypeOf_bare, ← hcontent, ItemType.subtypeOf_bare]
  exact content.yields_settledSubtypeOf t

mutual

theorem ItemType.yields_settledHasInstance : (t : ItemType) → (i : Item) →
    Yields (t.settledHasInstance i) (· = t.hasInstance i)
  | .item, i => by
      rw [ItemType.hasInstance_item]
      exact yields_pure rfl
  | .atomic s, i => by
      rw [ItemType.atomic_hasInstance_eq]
      cases i <;> exact Item.yields_settledContentType_subtypeOf _ _
  | .node k, i => by
      rw [ItemType.node_hasInstance_eq]
      cases i <;> exact Item.yields_settledContentType_subtypeOf _ _
  | .function f, i => by
      rw [ItemType.function_hasInstance_eq]
      cases i <;> exact Item.yields_settledContentType_subtypeOf _ _
  | .map k v, i => by
      cases i with
      | map entries =>
          have hvalue := SeqType.yields_settledHasInstance v
          refine yields_allM fun e _ => ?_
          cases e.1.type.subtypeOf k with
          | false => exact yields_pure rfl
          | true => exact hvalue e.2
      | _ => exact Item.yields_settledContentType_subtypeOf _ _
  | .array m, i => by
      cases i with
      | array members =>
          have hmember := SeqType.yields_settledHasInstance m
          exact yields_allM fun v _ => hmember v
      | _ => exact Item.yields_settledContentType_subtypeOf _ _

theorem SeqType.yields_settledHasInstance : (s : SeqType) → (v : Sequence) →
    Yields (s.settledHasInstance v) (· = s.hasInstance v)
  | .empty, v => yields_pure rfl
  | .of t o k h, v => by
      have hitem : ∀ i, Yields (do
          if ← t.settledHasInstance i then return k.all (·.acceptsItem i) else return false)
          (· = (t.hasInstance i && k.all (·.acceptsItem i))) := by
        intro i
        refine (ItemType.yields_settledHasInstance t i).bind_eq ?_
        cases t.hasInstance i <;> exact yields_pure rfl
      rw [SeqType.settledHasInstance, SeqType.hasInstance]
      cases o.admits v.length with
      | false => exact yields_pure rfl
      | true =>
          simp only [if_true, Bool.true_and]
          cases v.isHomogeneous with
          | false => exact yields_allM fun i _ => hitem i
          | true =>
              have hfirst : ∀ p : Item → Bool, v.head?.toList.all p = v.head?.all p := by
                intro p
                cases v.head? <;> simp
              rw [if_pos rfl, if_pos rfl, ← hfirst]
              exact yields_allM fun i _ => hitem i

end

namespace SeqType

theorem yields_settledCouldBe (s : SeqType) (t : AtomicType) :
    Yields (s.settledCouldBe t) (· = s.couldBe t) := by
  refine (s.itemType.yields_settledIntersect? (.atomic t)).map fun common? h => ?_
  rw [couldBe, ← Option.isSome_map (f := ItemType.bare), h, Option.isSome_map]

theorem yields_settledPromotable (s target : SeqType) :
    Yields (s.settledPromotable target) (· = s.promotable target) := by
  unfold settledPromotable promotable
  refine (s.yields_settledIntersect? target).bind fun common? h => ?_
  have hcommon : common?.isSome = (s.intersect? target).isSome := by
    rw [← Option.isSome_map (f := bare), h, Option.isSome_map]
  rw [hcommon]
  split
  · exact yields_pure rfl
  split
  · exact yields_pure rfl
  cases target.itemType with
  | atomic t =>
      dsimp only
      split
      · exact yields_pure rfl
      cases t with
      | double =>
          refine (s.yields_settledCouldBe .float).bind_eq ?_
          cases s.couldBe .float with
          | false => exact s.yields_settledCouldBe .decimal
          | true => exact yields_pure rfl
      | float => exact s.yields_settledCouldBe .decimal
      | string => exact s.yields_settledCouldBe .anyURI
      | _ => exact yields_pure rfl
  | _ => exact yields_pure rfl

end SeqType
end SequenceTypes
