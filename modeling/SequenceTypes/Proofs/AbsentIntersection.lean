import SequenceTypes.Proofs.LeastBounds
import SequenceTypes.Proofs.PromotionPrediction

/-! Types without an intersection. Where two types do not intersect, no count, no item or no node fits both.
This excludes all common instances but those that avoid the reason: the empty sequence where both types admit
it, maps and arrays without content where it would be, and functions whose result is below both results. No
atomic value and no node is ever part of a common instance, at any depth. -/

namespace SequenceTypes

theorem Occurrence.admits_one {o : Occurrence} (ho : o ≠ .zero) : o.admits 1 := by
  cases o with
  | zero => exact absurd rfl ho
  | _ => decide

namespace SeqType

theorem subtypeOfAll_anyItems (ps : List SeqType) :
    subtypeOfAll ps (List.replicate ps.length anyItems) := by
  induction ps with
  | nil => exact nil_subtypeOfAll_iff.2 rfl
  | cons p ps ih =>
      exact cons_subtypeOfAll_iff.2 ⟨anyItems, _, rfl, p.subtypeOf_anyItems, ih⟩

theorem isSome_unionAll? {ps qs : List SeqType} (h : ps.length = qs.length) : (unionAll? ps qs).isSome := by
  induction ps generalizing qs with
  | nil =>
      rw [List.length_eq_zero_iff.1 h.symm, unionAll?]
      rfl
  | cons p ps ih =>
      cases qs with
      | nil => cases h
      | cons q qs =>
          rw [unionAll?, Option.isSome_map]
          exact ih (Nat.succ.inj h)

end SeqType

namespace ItemType

/-- Types of functions that have a function in common whether they intersect or not. -/
inductive MeetInFunction : ItemType → ItemType → Prop where
  /-- The empty map. -/
  | map {k l : AtomicType} {v w : SeqType} : MeetInFunction (.map k v) (.map l w)
  /-- The empty array. -/
  | array {m n : SeqType} : MeetInFunction (.array m) (.array n)
  /-- A function that takes anything and returns what both types may return. -/
  | function {ps qs : List SeqType} {r s c : SeqType} (hlength : ps.length = qs.length)
      (hr : c.subtypeOf r) (hs : c.subtypeOf s) :
      MeetInFunction (.function (.of ps r)) (.function (.of qs s))

variable {t u : ItemType} {i : Item} {f g : FunctionType}

theorem MeetInFunction.isFunction (h : MeetInFunction t u) : t.isFunction ∧ u.isFunction := by
  cases h <;> exact ⟨rfl, rfl⟩

theorem function_hasInstance_of_result {ps params : List SeqType} {r c : SeqType}
    (hlength : ps.length = params.length) (hr : c.subtypeOf r) :
    (function (.of ps r)).hasInstance
      (.function none (List.replicate params.length SeqType.anyItems) c) := by
  rw [function_hasInstance_eq]
  refine subtypeOf_function_iff.2 ⟨_, rfl, FunctionType.of_subtypeOf_iff.2 (Or.inr ⟨ps, r, rfl, ?_, hr⟩)⟩
  rw [← hlength]
  exact SeqType.subtypeOfAll_anyItems ps

theorem MeetInFunction.exists_common (h : MeetInFunction t u) :
    ∃ i, t.hasInstance i ∧ u.hasInstance i := by
  cases h with
  | map => exact ⟨.map [], rfl, rfl⟩
  | array => exact ⟨.array [], rfl, rfl⟩
  | function hlength hr hs =>
      exact ⟨_, function_hasInstance_of_result rfl hr, function_hasInstance_of_result hlength.symm hs⟩

theorem isSome_intersect?_of_arity (ht : t.lookup?.isSome) (hf : f = .any ∨ f.arity? = some 1) :
    (t.intersect? (.function f)).isSome ∧ ((function f).intersect? t).isSome := by
  by_cases hsub : t.subtypeOf (function f)
  · exact ⟨isSome_intersect?_of_comparable (Or.inl hsub), isSome_intersect?_of_comparable (Or.inr hsub)⟩
  · rcases hf with rfl | hf
    · cases t with
      | map _ _ | array _ => exact absurd (subtypeOf_any_of_isFunction rfl) hsub
      | _ => cases ht
    · rw [intersect?.eq_def, intersect?.eq_def (function f)]
      cases t with
      | map _ _ | array _ => simp [hsub, hf, subtypeOf]
      | _ => cases ht

theorem arity?_of_lookup (ht : t.lookup?.isSome) (h : t.subtypeOf (function f)) :
    f = .any ∨ f.arity? = some 1 := by
  have hsingle : ∃ p r, t.asFunction? = some (.of [p] r) := by
    cases t with
    | map k v => exact ⟨_, _, rfl⟩
    | array m => exact ⟨_, _, rfl⟩
    | _ => cases ht
  obtain ⟨p, r, hp⟩ := hsingle
  obtain ⟨e, he, hef⟩ := subtypeOf_function_iff.1 h
  obtain rfl := Option.some.inj (hp.symm.trans he)
  rcases FunctionType.of_subtypeOf_iff.1 hef with hany | ⟨qs, s, rfl, hparams, _⟩
  · exact Or.inl hany
  · exact Or.inr (congrArg some (SeqType.length_eq_of_subtypeOfAll hparams))

/-- A map or array that is a function of some signature shows that the signature has one parameter, and
such types intersect. -/
theorem isSome_intersect?_of_lookup (ht : t.lookup?.isSome) (hti : t.hasInstance i)
    (hfi : (function f).hasInstance i) :
    (t.intersect? (.function f)).isSome ∧ ((function f).intersect? t).isSome := by
  rw [function_hasInstance_eq] at hfi
  have hcontent : i.contentType.lookup?.isSome := by
    cases t with
    | map k v =>
        obtain ⟨entries, rfl, _⟩ := map_hasInstance_iff.1 hti
        rfl
    | array m =>
        obtain ⟨members, rfl, _⟩ := array_hasInstance_iff.1 hti
        rfl
    | _ => cases ht
  exact isSome_intersect?_of_arity ht (arity?_of_lookup hcontent hfi)

/-- A common function has a result that is below the results of both signatures, and their arity. -/
theorem exists_result_of_hasInstance {ps qs : List SeqType} {r s : SeqType}
    (hri : (function (.of ps r)).hasInstance i) (hsi : (function (.of qs s)).hasInstance i) :
    ∃ params c, i.contentType.asFunction? = some (.of params c) ∧ ps.length = qs.length ∧
      c.subtypeOf r ∧ c.subtypeOf s := by
  rw [function_hasInstance_eq, subtypeOf_function_iff] at hri hsi
  obtain ⟨e, he, hr⟩ := hri
  obtain ⟨e', he', hs⟩ := hsi
  obtain rfl := Option.some.inj (he.symm.trans he')
  cases e with
  | any => cases FunctionType.any_subtypeOf_iff.1 hr
  | of params c =>
      rw [FunctionType.subtypeOf, Bool.and_eq_true] at hr hs
      refine ⟨params, c, he, ?_, hr.2, hs.2⟩
      rw [SeqType.length_eq_of_subtypeOfAll hr.1, SeqType.length_eq_of_subtypeOfAll hs.1]

/-- Item types with a common item intersect, or have a function in common. -/
theorem isSome_intersect?_or_meetInFunction (hti : t.hasInstance i) (hui : u.hasInstance i) :
    (t.intersect? u).isSome ∨ MeetInFunction t u := by
  rcases isSome_intersect?_or_isFunction hti hui with hsome | ⟨ht, hu⟩
  · exact Or.inl hsome
  cases t with
  | item | atomic _ | node _ => cases ht
  | map k v =>
      cases u with
      | item | atomic _ | node _ => cases hu
      | map l w => exact Or.inr .map
      | array n =>
          obtain ⟨entries, rfl, _⟩ := map_hasInstance_iff.1 hti
          obtain ⟨members, hmembers, _⟩ := array_hasInstance_iff.1 hui
          cases hmembers
      | function g => exact Or.inl (isSome_intersect?_of_lookup rfl hti hui).1
  | array m =>
      cases u with
      | item | atomic _ | node _ => cases hu
      | map l w =>
          obtain ⟨members, rfl, _⟩ := array_hasInstance_iff.1 hti
          obtain ⟨entries, hentries, _⟩ := map_hasInstance_iff.1 hui
          cases hentries
      | array n => exact Or.inr .array
      | function g => exact Or.inl (isSome_intersect?_of_lookup rfl hti hui).1
  | function f =>
      cases u with
      | item | atomic _ | node _ => cases hu
      | map _ _ | array _ => exact Or.inl (isSome_intersect?_of_lookup rfl hui hti).2
      | function g =>
          cases f with
          | any => exact Or.inl (isSome_intersect?_of_comparable (Or.inr (subtypeOf_any_of_isFunction rfl)))
          | of ps r =>
              cases g with
              | any =>
                  exact Or.inl (isSome_intersect?_of_comparable (Or.inl (subtypeOf_any_of_isFunction rfl)))
              | of qs s =>
                  obtain ⟨_, c, _, hlength, hr, hs⟩ := exists_result_of_hasInstance hti hui
                  exact Or.inr (.function hlength hr hs)

end ItemType

/-- An item in which no atomic value and no node occurs, except as the key of a map: a function, whatever it is
made from, or a map or array of such items. -/
inductive Item.Hollow : Item → Prop where
  | function {name? : Option QName} {params : List SeqType} {result : SeqType} :
      Hollow (.function name? params result)
  | coerced {source : Item} {type : FunctionType} : Hollow (.coerced source type)
  | map {entries : List (AtomicValue × List Item)} (h : ∀ e ∈ entries, ∀ i ∈ e.2, Hollow i) :
      Hollow (.map entries)
  | array {members : List (List Item)} (h : ∀ v ∈ members, ∀ i ∈ v, Hollow i) : Hollow (.array members)

theorem Item.hollow_of_functionType? {i : Item} (hi : i.functionType? ≠ none) : i.Hollow := by
  cases i with
  | function _ _ _ => exact .function
  | coerced _ _ => exact .coerced
  | _ => exact absurd rfl hi

namespace ItemType

variable {k l : AtomicType} {v w m n r s : SeqType} {ps qs : List SeqType}

theorem isSome_intersect?_map (hkey : (k.intersect? l).isSome) (hvalue : (v.intersect? w).isSome) :
    ((map k v).intersect? (map l w)).isSome := by
  obtain ⟨key, hkey⟩ := Option.isSome_iff_exists.1 hkey
  rw [intersect?]
  split
  · rfl
  · split
    · rfl
    · rw [hkey, Option.bind_some, Option.isSome_map]
      exact hvalue

theorem isSome_intersect?_array (h : (m.intersect? n).isSome) : ((array m).intersect? (array n)).isSome := by
  rw [intersect?]
  split
  · rfl
  · split
    · rfl
    · rw [Option.isSome_map]
      exact h

theorem isSome_intersect?_function (hlength : ps.length = qs.length) (h : (r.intersect? s).isSome) :
    ((function (.of ps r)).intersect? (function (.of qs s))).isSome := by
  obtain ⟨params, hparams⟩ := Option.isSome_iff_exists.1 (SeqType.isSome_unionAll? hlength)
  rw [intersect?]
  split
  · rfl
  · split
    · rfl
    · rw [Option.isSome_map, FunctionType.intersect?, hparams, Option.bind_some, Option.isSome_map]
      exact h

theorem isSome_intersect?_of_ofAtomic {a : AtomicType} {f g : FunctionType}
    (hf : (FunctionType.ofAtomic a).subtypeOf f) (hg : (FunctionType.ofAtomic a).subtypeOf g) :
    ((function f).intersect? (function g)).isSome := by
  rcases FunctionType.ofAtomic_subtypeOf_iff.1 hf with rfl | ⟨p, rfl, _⟩
  · exact isSome_intersect?_of_comparable (Or.inr (subtypeOf_any_of_isFunction rfl))
  rcases FunctionType.ofAtomic_subtypeOf_iff.1 hg with rfl | ⟨q, rfl, _⟩
  · exact isSome_intersect?_of_comparable (Or.inl (subtypeOf_any_of_isFunction rfl))
  refine isSome_intersect?_function rfl (SeqType.isSome_intersect?_iff.2 ⟨rfl, ?_, rfl⟩)
  exact isSome_intersect?_of_comparable (Or.inl (subtypeOf_refl _))

theorem flat_of_subtypeOf {t u : ItemType} (ht : t.isFunction = false) (htu : t.subtypeOf u) :
    u.isFunction = false := by
  cases hu : u.isFunction with
  | false => rfl
  | true =>
      rw [isFunction_of_subtypeOf hu htu] at ht
      cases ht

/-- Types that cover a common ground type intersect. -/
theorem Ground.isSome_intersect? {g t u : ItemType} (hg : Ground g) (ht : g.subtypeOf t)
    (hu : g.subtypeOf u) : (t.intersect? u).isSome := by
  cases hg with
  | atomic _ | node _ =>
      exact isSome_intersect?_of_comparable
        (comparable_of_flat (flat_of_subtypeOf rfl ht) (flat_of_subtypeOf rfl hu) ht hu)
  | map =>
      rcases map_subtypeOf_iff.1 ht with rfl | ⟨k, v, rfl, _⟩ | ⟨f, rfl, hf⟩
      · exact isSome_intersect?_of_comparable (Or.inr (subtypeOf_item u))
      · obtain ⟨rfl, rfl⟩ := anyMap_subtypeOf_map_iff.1 ht
        exact isSome_intersect?_of_comparable (Or.inl hu)
      rcases map_subtypeOf_iff.1 hu with rfl | ⟨k, v, rfl, _⟩ | ⟨g, rfl, hg⟩
      · exact isSome_intersect?_of_comparable (Or.inl (subtypeOf_item _))
      · obtain ⟨rfl, rfl⟩ := anyMap_subtypeOf_map_iff.1 hu
        exact isSome_intersect?_of_comparable (Or.inr ht)
      · exact isSome_intersect?_of_ofAtomic hf hg
  | array =>
      rcases array_subtypeOf_iff.1 ht with rfl | ⟨m, rfl, _⟩ | ⟨f, rfl, hf⟩
      · exact isSome_intersect?_of_comparable (Or.inr (subtypeOf_item u))
      · obtain rfl := anyArray_subtypeOf_array_iff.1 ht
        exact isSome_intersect?_of_comparable (Or.inl hu)
      rcases array_subtypeOf_iff.1 hu with rfl | ⟨m, rfl, _⟩ | ⟨g, rfl, hg⟩
      · exact isSome_intersect?_of_comparable (Or.inl (subtypeOf_item _))
      · obtain rfl := anyArray_subtypeOf_array_iff.1 hu
        exact isSome_intersect?_of_comparable (Or.inr ht)
      · exact isSome_intersect?_of_ofAtomic hf hg

end ItemType

/-! ### Summaries

Against a signature the content of a map or array is summed up. All items stay covered by the summary, other
than functions with types of their own. -/

namespace SeqType

variable {a b c r s : SeqType} {g t : ItemType} {o : Occurrence}

/-- Whether a type has no test and an item type that covers a given one. -/
def Covers (a : SeqType) (g : ItemType) : Prop := ∃ t o h, a = of t o none h ∧ g.subtypeOf t

theorem covers_make (ho : o ≠ .zero) (ht : g.subtypeOf t) : (make t o none).Covers g :=
  ⟨t, o, ho, make_of_ne_zero t none ho, ht⟩

theorem Covers.union (hg : g.Ground) (h : a.Covers g ∨ b.Covers g) : (a.union b).Covers g := by
  rcases h with ⟨t, o, ho, rfl, ht⟩ | ⟨u, p, hp, rfl, hu⟩
  · cases b with
    | empty =>
        rw [SeqType.union]
        exact covers_make (Occurrence.union_ne_zero_left ho _) ht
    | of u p l hp =>
        rw [SeqType.union]
        split
        · exact covers_make (Occurrence.union_ne_zero_left ho _) ht
        · exact covers_make (Occurrence.union_ne_zero_left ho _) (hg.subtypeOf_union (Or.inl ht))
  · cases a with
    | empty =>
        rw [SeqType.union]
        exact covers_make (Occurrence.union_ne_zero_right hp _) hu
    | of t o k ho =>
        rw [SeqType.union]
        split
        · next heq =>
            have htest : commonTest k none = none := by cases k <;> rfl
            have hut := (ItemType.subtypeOf_of_beq heq).2
            rw [htest]
            exact covers_make (Occurrence.union_ne_zero_right hp _)
              (ItemType.subtypeOf_trans (Or.inl hg.testFree) hu hut)
        · exact covers_make (Occurrence.union_ne_zero_right hp _) (hg.subtypeOf_union (Or.inr hu))

theorem Covers.foldl_union (hg : g.Ground) {vs : List Sequence}
    (h : a.Covers g ∨ ∃ v ∈ vs, v.staticType.Covers g) :
    (vs.foldl (fun a v => a.union v.staticType) a).Covers g := by
  induction vs generalizing a with
  | nil => exact h.resolve_right (by simp)
  | cons v vs ih =>
      refine ih ?_
      rcases h with ha | ⟨w, hw, hcover⟩
      · exact Or.inl (.union hg (Or.inl ha))
      · rcases List.mem_cons.1 hw with rfl | hw
        · exact Or.inl (.union hg (Or.inr hcover))
        · exact Or.inr ⟨w, hw, hcover⟩

theorem covers_staticType {v : Sequence} {i : Item} (hi : i ∈ v) (hfun : i.functionType? = none) :
    v.staticType.Covers i.runtimeType := by
  cases v with
  | nil => cases hi
  | cons first rest =>
      obtain ⟨t, h, ht, hcover⟩ := Sequence.staticType_cons first rest
      exact ⟨t, _, h, ht, hcover i hi hfun⟩

theorem covers_coverSequences {vs : List Sequence} {v : Sequence} {i : Item} (hv : v ∈ vs) (hi : i ∈ v)
    (hfun : i.functionType? = none) : (coverSequences vs).Covers i.runtimeType := by
  have hg := Item.ground_runtimeType hfun
  have hcover := covers_staticType hi hfun
  cases vs with
  | nil => cases hv
  | cons w vs =>
      rcases List.mem_cons.1 hv with rfl | hv
      · exact .foldl_union hg (Or.inl hcover)
      · exact .foldl_union hg (Or.inr ⟨v, hv, hcover⟩)

theorem Covers.optional (h : a.Covers g) : (a.withOccurrence (a.occurrence.union .zeroOne)).Covers g := by
  obtain ⟨t, o, ho, rfl, ht⟩ := h
  rcases withOccurrence_optional (of t o none ho) with ⟨heq, _⟩ | ⟨t', o', k, h, h', heq, hoptional⟩
  · cases heq
  · cases heq
    exact ⟨t, _, h', hoptional, ht⟩

/-- Types above a type that covers a ground type intersect. -/
theorem Covers.isSome_intersect? (hg : g.Ground) (hc : c.Covers g) (hr : c.subtypeOf r)
    (hs : c.subtypeOf s) : (r.intersect? s).isSome := by
  obtain ⟨t, o, ho, rfl, ht⟩ := hc
  obtain ⟨x, p, k, hp, rfl, htx, _, hk⟩ := of_subtypeOf_iff.1 hr
  obtain ⟨y, q, l, hq, rfl, hty, _, hl⟩ := of_subtypeOf_iff.1 hs
  obtain rfl := testsOverlap_none_left hk
  obtain rfl := testsOverlap_none_left hl
  refine isSome_intersect?_iff.2 ⟨?_, ?_, rfl⟩
  · exact Occurrence.isSome_intersect?_of_admits (Occurrence.admits_one hp) (Occurrence.admits_one hq)
  · exact hg.isSome_intersect? (ItemType.subtypeOf_trans (Or.inl hg.testFree) ht htx)
      (ItemType.subtypeOf_trans (Or.inl hg.testFree) ht hty)

end SeqType

section Common

variable {t u : ItemType} {a b r s : SeqType} {i : Item} {v : Sequence}

theorem SeqType.not_isSome_intersect?_itemType (hcount : (a.occurrence.intersect? b.occurrence).isSome)
    (hnone : ¬(a.intersect? b).isSome) (hai : a.hasItem i) (hbi : b.hasItem i) :
    ¬(a.itemType.intersect? b.itemType).isSome := by
  intro hmeet
  have htests := isSome_mergeTests? (hasItem_iff.1 hai).2 (hasItem_iff.1 hbi).2
  exact hnone (isSome_intersect?_iff.2 ⟨hcount, hmeet, htests⟩)

/-- A function whose result is below two results that do not intersect returns no data. -/
theorem Item.hollow_of_result {params : List SeqType} {c : SeqType}
    (hi : i.contentType.asFunction? = some (.of params c)) (hr : c.subtypeOf r) (hs : c.subtypeOf s)
    (hnone : ¬(r.intersect? s).isSome) : i.Hollow := by
  -- the result does not cover what is no function itself
  have hcover : ∀ j : Item, j.functionType? = none → ¬c.Covers j.runtimeType := by
    intro j hj hc
    exact hnone (hc.isSome_intersect? (ground_runtimeType hj) hr hs)
  cases i with
  | atomic _ | node _ => cases hi
  | function _ _ _ => exact .function
  | coerced _ _ => exact .coerced
  | map entries =>
      cases hi
      refine .map fun e he j hj => hollow_of_functionType? fun hfun => hcover j hfun ?_
      exact (SeqType.covers_coverSequences (List.mem_map_of_mem he) hj hfun).optional
  | array members =>
      cases hi
      refine .array fun w hw j hj => hollow_of_functionType? fun hfun => hcover j hfun ?_
      exact SeqType.covers_coverSequences hw hj hfun

/-- If common items of the item types are without data, so are those of common sequences. -/
theorem SeqType.hollow_of_items
    (hitems : ¬(a.itemType.intersect? b.itemType).isSome →
      ∀ i, a.itemType.hasInstance i → b.itemType.hasInstance i → i.Hollow)
    (hnone : ¬(a.intersect? b).isSome) (hav : a.hasInstance v) (hbv : b.hasInstance v) :
    ∀ i ∈ v, i.Hollow := by
  intro i hi
  obtain ⟨hlena, halla⟩ := hasInstance_iff.1 hav
  obtain ⟨hlenb, hallb⟩ := hasInstance_iff.1 hbv
  have hcount := Occurrence.isSome_intersect?_of_admits hlena hlenb
  have hmeet := not_isSome_intersect?_itemType hcount hnone (halla i hi) (hallb i hi)
  exact hitems hmeet i (hasItem_iff.1 (halla i hi)).1 (hasItem_iff.1 (hallb i hi)).1

/-- Item types that do not intersect have no item with data in common. The induction is on the types: what
keeps them apart, in the values of maps or the members of arrays, keeps their instances apart. -/
theorem ItemType.hollow_of_hasInstance (hnone : ¬(t.intersect? u).isSome) (hti : t.hasInstance i)
    (hui : u.hasInstance i) : i.Hollow := by
  induction hn : t.weight using Nat.strongRecOn generalizing t u i with
  | ind n ih =>
      subst hn
      cases (isSome_intersect?_or_meetInFunction hti hui).resolve_left hnone with
      | @map k l v w =>
          obtain ⟨entries, rfl, hleft⟩ := map_hasInstance_iff.1 hti
          obtain ⟨_, heq, hright⟩ := map_hasInstance_iff.1 hui
          cases heq
          have hlt := itemType_weight_lt_map k v
          refine .map fun e he => ?_
          obtain ⟨hkey, hvalue⟩ := hleft e he
          obtain ⟨hkey', hvalue'⟩ := hright e he
          have hkeys := AtomicType.isSome_intersect?_of_subtypeOf hkey hkey'
          exact SeqType.hollow_of_items (fun hitems j hj hj' => ih _ hlt hitems hj hj' rfl)
            (mt (isSome_intersect?_map hkeys) hnone) hvalue hvalue'
      | @array m n =>
          obtain ⟨members, rfl, hleft⟩ := array_hasInstance_iff.1 hti
          obtain ⟨_, heq, hright⟩ := array_hasInstance_iff.1 hui
          cases heq
          have hlt := itemType_weight_lt_array m
          refine .array fun w hw => ?_
          exact SeqType.hollow_of_items (fun hitems j hj hj' => ih _ hlt hitems hj hj' rfl)
            (mt isSome_intersect?_array hnone) (hleft w hw) (hright w hw)
      | function hlength _ _ =>
          obtain ⟨_, c, hc, _, hr, hs⟩ := exists_result_of_hasInstance hti hui
          exact Item.hollow_of_result hc hr hs (mt (isSome_intersect?_function hlength) hnone)

end Common

namespace SeqType

variable {a b : SeqType} {i : Item}

theorem hasInstance_nil_iff : a.hasInstance [] ↔ a.mayBeZero := by
  rw [hasInstance_iff, List.length_nil, Occurrence.admits_zero_iff, mayBeZero, decide_eq_true_iff]
  simp

/-- An item of the item type makes a sequence of its own, where there is no test. -/
theorem hasInstance_singleton_of_not_isZero (hzero : a.isZero = false) (htest : a.test? = none)
    (hi : a.itemType.hasInstance i) : a.hasInstance [i] := by
  refine hasInstance_iff.2 ⟨Occurrence.admits_one (of_decide_eq_false hzero), ?_⟩
  intro j hj
  obtain rfl := List.mem_singleton.1 hj
  refine hasItem_iff.2 ⟨hi, ?_⟩
  rw [htest]
  rfl

/-- A function, map or array that the item type has makes a sequence of one item. -/
theorem hasInstance_singleton (ha : a.itemType.isFunction) (htest : a.test? = none)
    (hi : a.itemType.hasInstance i) : a.hasInstance [i] := by
  refine hasInstance_singleton_of_not_isZero ?_ htest hi
  cases a with
  | empty => cases ha
  | of t o k h => exact decide_eq_false h

/-- A common item of types that do not intersect is a function, map or array, and neither type has a
test. -/
theorem meetInFunction_of_hasItem (hcount : (a.occurrence.intersect? b.occurrence).isSome)
    (hnone : ¬(a.intersect? b).isSome) (hai : a.hasItem i) (hbi : b.hasItem i) :
    a.test? = none ∧ b.test? = none ∧ a.itemType.MeetInFunction b.itemType := by
  have hta := (hasItem_iff.1 hai).1
  have htb := (hasItem_iff.1 hbi).1
  have hmeet := (ItemType.isSome_intersect?_or_meetInFunction hta htb).resolve_left
    (not_isSome_intersect?_itemType hcount hnone hai hbi)
  have hnode : ∀ n, i ≠ .node n := by
    rintro n rfl
    cases ItemType.isFunction_of_hasInstance hmeet.isFunction.1 hta
  exact ⟨test?_eq_none_of_hasItem hnode hai, test?_eq_none_of_hasItem hnode hbi, hmeet⟩

/-- Types without an intersection share no data: no atomic value and no node occurs in a common instance,
keys of maps apart. They share the empty sequence exactly if both admit it, and other sequences exactly if
they have no tests and their item types have a function in common: they are both map types, both array
types, or signatures of one arity with a type below both results. -/
theorem absent_intersection_exact (hnone : a.intersect? b = none) :
    (∀ v, a.hasInstance v → b.hasInstance v → ∀ i ∈ v, i.Hollow) ∧
    (a.hasInstance [] ∧ b.hasInstance [] ↔ a.mayBeZero ∧ b.mayBeZero) ∧
    ((∃ v, v ≠ [] ∧ a.hasInstance v ∧ b.hasInstance v) ↔
      a.test? = none ∧ b.test? = none ∧ a.itemType.MeetInFunction b.itemType) := by
  have hnot := Option.not_isSome_iff_eq_none.2 hnone
  refine ⟨?_, and_congr hasInstance_nil_iff hasInstance_nil_iff, ?_, ?_⟩
  · intro v
    exact hollow_of_items (fun hitems _ => ItemType.hollow_of_hasInstance hitems) hnot
  · rintro ⟨v, hv, hav, hbv⟩
    obtain ⟨hcount, i, hai, hbi⟩ := exists_common_item hv hav hbv
    exact meetInFunction_of_hasItem hcount hnot hai hbi
  · rintro ⟨hka, hkb, hmeet⟩
    obtain ⟨i, hai, hbi⟩ := hmeet.exists_common
    obtain ⟨hfa, hfb⟩ := hmeet.isFunction
    exact ⟨[i], List.cons_ne_nil i [], hasInstance_singleton hfa hka hai, hasInstance_singleton hfb hkb hbi⟩

/-- Functions that return arrays whose members may be empty share those that return arrays of nothing. -/
theorem common_function_of_array_results :
    let returning (t : AtomicType) : SeqType :=
      (ItemType.function (.of [(ItemType.atomic t).single]
        (ItemType.array (of (.atomic t) .zeroOne none (by decide))).single)).single
    (returning .string).intersect? (returning .integer) = none ∧
      ∃ v, v ≠ [] ∧ (returning .string).hasInstance v ∧ (returning .integer).hasInstance v := by
  intro returning
  have hnone : (returning .string).intersect? (returning .integer) = none :=
    Option.isNone_iff_eq_none.1 (by decide +kernel)
  have hmeet : (returning .string).itemType.MeetInFunction (returning .integer).itemType :=
    .function (c := (ItemType.array empty).single) rfl (by decide +kernel) (by decide +kernel)
  exact ⟨hnone, (absent_intersection_exact hnone).2.2.2 ⟨rfl, rfl, hmeet⟩⟩

/-- The empty sequence and the array without members belong to types that do not intersect. -/
theorem absent_intersection_of_common_instances :
    let untyped : SeqType := of (.atomic .untyped) .zeroMore none (by decide)
    let strings : SeqType := of (.atomic .string) .zeroMore none (by decide)
    let arrays (t : AtomicType) : SeqType := (ItemType.array (ItemType.atomic t).single).single
    (untyped.intersect? strings = none ∧ untyped.hasInstance [] ∧ strings.hasInstance []) ∧
    ((arrays .string).intersect? (arrays .integer) = none ∧
      (arrays .string).hasInstance [.array []] ∧ (arrays .integer).hasInstance [.array []]) := by
  intro untyped strings arrays
  refine ⟨⟨?_, rfl, rfl⟩, ?_, rfl, rfl⟩
  · exact Option.isNone_iff_eq_none.1 (by decide +kernel)
  · exact Option.isNone_iff_eq_none.1 (by decide +kernel)

end SeqType
end SequenceTypes
