import SequenceTypes.Proofs.PrincipalType

/-! Maps and arrays as lookup functions. A map type is a subtype of its lookup function type, and so is an
array type, but their instances need not be instances of it. Against a function type the content is summed
up by static types, which know maps and arrays inside only as `map(*)` and `array(*)`, and which take an
array without members for one of empty sequences. The occurrences always survive the summary; the item
types do exactly if the maps and arrays inside are covered as such. -/

namespace SequenceTypes

/-- The type of all sequences of items of a type. -/
def ItemType.many (t : ItemType) : SeqType := .of t .zeroMore none Occurrence.zeroMore_ne_zero

theorem Occurrence.subtypeOf_zeroMore (o : Occurrence) : o.subtypeOf .zeroMore := by
  cases o <;> rfl

namespace SeqType

variable {a s : SeqType} {t : ItemType}

theorem subtypeOf_many_iff : a.subtypeOf t.many ↔ a = empty ∨ a.itemType.subtypeOf t := by
  rw [subtypeOf_iff_of_no_test rfl]
  exact and_iff_right a.occurrence.subtypeOf_zeroMore

theorem make_subtypeOf_many (t : ItemType) (o : Occurrence) : (make t o none).subtypeOf t.many := by
  by_cases ho : o = .zero
  · rw [ho, make_zero]
    exact subtypeOf_many_iff.2 (Or.inl rfl)
  · rw [make_of_ne_zero _ _ ho]
    exact subtypeOf_many_iff.2 (Or.inr t.subtypeOf_refl)

/-- A value that may be absent is below another as soon as its items are, if its occurrence is. -/
theorem optional_subtypeOf_iff (htest : s.test? = none)
    (hocc : a ≠ empty → a.occurrence.subtypeOf s.occurrence) :
    (a.withOccurrence (a.occurrence.union .zeroOne)).subtypeOf
      (s.withOccurrence (s.occurrence.union .zeroOne)) ↔ a.subtypeOf s.itemType.many := by
  rw [subtypeOf_many_iff]
  rcases withOccurrence_optional s with ⟨rfl, hs⟩ | ⟨u, p, l, hp, hp', rfl, hs⟩
  · have ha : a = empty := by
      by_cases ha : a = empty
      · exact ha
      · cases a with
        | empty => rfl
        | of t o k ho => exact absurd (Occurrence.eq_zero_of_subtypeOf (hocc ha)) ho
    rw [ha, hs]
    exact iff_of_true (subtypeOf_refl _) (Or.inl rfl)
  · obtain rfl : l = none := htest
    rcases withOccurrence_optional a with ⟨rfl, ha⟩ | ⟨t, o, k, ho, ho', rfl, ha⟩
    · rw [ha, hs, empty_subtypeOf_iff]
      exact iff_of_true (Occurrence.lower_union_zeroOne p) (Or.inl rfl)
    · have hop := Occurrence.union_zeroOne_mono (hocc (by simp))
      rw [ha, hs, of_subtypeOf_of_iff]
      constructor
      · intro h
        exact Or.inr h.1
      · intro h
        exact ⟨h.resolve_left (by simp), hop, rfl⟩

end SeqType

theorem occurrence_foldl_union_subtypeOf_iff {s : SeqType} {vs : List Sequence} {o : Occurrence} :
    (vs.foldl (fun s v => s.union v.staticType) s).occurrence.subtypeOf o ↔
      s.occurrence.subtypeOf o ∧ ∀ v ∈ vs, o.admits v.length := by
  induction vs generalizing s with
  | nil => simp
  | cons v vs ih =>
      rw [List.foldl_cons, ih, SeqType.occurrence_union, Occurrence.union_subtypeOf_iff,
        Sequence.occurrence_staticType, Occurrence.ofSize_subtypeOf_iff, List.forall_mem_cons, and_assoc]

/-- The occurrence of a summary is the least that admits the lengths of all sequences. -/
theorem occurrence_coverSequences_subtypeOf_iff {values : List Sequence} (hne : values ≠ [])
    {o : Occurrence} :
    (coverSequences values).occurrence.subtypeOf o ↔ ∀ v ∈ values, o.admits v.length := by
  cases values with
  | nil => exact absurd rfl hne
  | cons v vs =>
      rw [coverSequences, occurrence_foldl_union_subtypeOf_iff, Sequence.occurrence_staticType,
        Occurrence.ofSize_subtypeOf_iff, List.forall_mem_cons]

theorem SeqType.foldl_union_subtypeOf {a s : SeqType} (hs : s.within .plain) (ha : a.subtypeOf s)
    {vs : List Sequence} (hvs : ∀ v ∈ vs, v.staticType.subtypeOf s) :
    (vs.foldl (fun a v => a.union v.staticType) a).subtypeOf s := by
  induction vs generalizing a with
  | nil => exact ha
  | cons v vs ih =>
      have hunion := union_subtypeOf hs ha (hvs v List.mem_cons_self)
      exact ih hunion fun w hw => hvs w (List.mem_cons_of_mem v hw)

/-- A summary is the least type without tests and signatures that covers all static types. -/
theorem coverSequences_subtypeOf {s : SeqType} (hs : s.within .plain) (hempty : SeqType.empty.subtypeOf s)
    {values : List Sequence} (hvalues : ∀ v ∈ values, v.staticType.subtypeOf s) :
    (coverSequences values).subtypeOf s := by
  cases values with
  | nil => exact hempty
  | cons v vs =>
      exact SeqType.foldl_union_subtypeOf hs (hvalues v List.mem_cons_self)
        fun w hw => hvalues w (List.mem_cons_of_mem v hw)

theorem SeqType.make_union_make (g : ItemType) (o p : Occurrence) :
    (make g o none).union (make g p none) = make g (o.union p) none := by
  by_cases ho : o = .zero
  · by_cases hp : p = .zero
    · rw [ho, hp, make_zero, union]
      rfl
    · rw [ho, make_zero, make_of_ne_zero _ _ hp, union]
      rfl
  · by_cases hp : p = .zero
    · rw [hp, make_zero, make_of_ne_zero _ _ ho, union]
    · rw [make_of_ne_zero _ _ ho, make_of_ne_zero _ _ hp, union, if_pos (beq_self_eq_true g)]
      rfl

theorem ItemType.foldl_union_of_forall_eq {g : ItemType} {v : Sequence}
    (hv : ∀ i ∈ v, i.runtimeType = g) : v.foldl (fun t i => t.union i.runtimeType) g = g := by
  induction v with
  | nil => rfl
  | cons i v ih =>
      rw [List.foldl_cons, hv i List.mem_cons_self, union_of_subtypeOf g.subtypeOf_refl]
      exact ih fun j hj => hv j (List.mem_cons_of_mem i hj)

theorem Sequence.staticType_of_forall_eq {g : ItemType} {v : Sequence}
    (hv : ∀ i ∈ v, i.runtimeType = g) : v.staticType = .make g (.ofSize (some v.length)) none := by
  cases v with
  | nil => rfl
  | cons first rest =>
      obtain ⟨hfirst, hrest⟩ := List.forall_mem_cons.1 hv
      obtain ⟨t, ht, htype⟩ := staticType_cons_eq first rest
      rw [hfirst, ItemType.foldl_union_of_forall_eq hrest, or_self] at htype
      rw [ht, htype]
      rfl

theorem SeqType.foldl_union_of_forall_eq {g : ItemType} {vs : List Sequence}
    (hvs : ∀ v ∈ vs, ∀ i ∈ v, i.runtimeType = g) (o : Occurrence) :
    ∃ p, vs.foldl (fun a v => a.union v.staticType) (make g o none) = make g p none := by
  induction vs generalizing o with
  | nil => exact ⟨o, rfl⟩
  | cons v vs ih =>
      obtain ⟨hv, hrest⟩ := List.forall_mem_cons.1 hvs
      rw [List.foldl_cons, Sequence.staticType_of_forall_eq hv, make_union_make]
      exact ih hrest _

/-- Items of one runtime type are summed up by that type. -/
theorem coverSequences_of_forall_eq {g : ItemType} {values : List Sequence}
    (hvalues : ∀ v ∈ values, ∀ i ∈ v, i.runtimeType = g) :
    ∃ o, coverSequences values = .make g o none := by
  cases values with
  | nil => exact ⟨.zero, rfl⟩
  | cons v vs =>
      obtain ⟨hv, hrest⟩ := List.forall_mem_cons.1 hvalues
      rw [coverSequences, Sequence.staticType_of_forall_eq hv]
      exact SeqType.foldl_union_of_forall_eq hrest _

/-- Where no sequence has an item, the summary is below any number of items of any type. -/
theorem coverSequences_subtypeOf_many_of_no_items {values : List Sequence}
    (hnone : ∀ v ∈ values, ∀ i, i ∉ v) (t : ItemType) : (coverSequences values).subtypeOf t.many := by
  obtain ⟨o, ho⟩ := coverSequences_of_forall_eq (g := t) fun v hv i hi => absurd hi (hnone v hv i)
  rw [ho]
  exact SeqType.make_subtypeOf_many t o

/-- The runtime type of the items stays in the summary, if there is an item. -/
theorem runtimeType_subtypeOf_of_summary {g t : ItemType} {values : List Sequence}
    (hvalues : ∀ v ∈ values, ∀ i ∈ v, i.runtimeType = g) (h : (coverSequences values).subtypeOf t.many)
    {v : Sequence} (hv : v ∈ values) {i : Item} (hi : i ∈ v) : g.subtypeOf t := by
  obtain ⟨o, ho⟩ := coverSequences_of_forall_eq hvalues
  have hne : o ≠ .zero := by
    rintro rfl
    have hzero : (coverSequences values).occurrence.subtypeOf .zero := by
      rw [ho]
      rfl
    have hlength := (occurrence_coverSequences_subtypeOf_iff (List.ne_nil_of_mem hv)).1 hzero v hv
    cases v with
    | nil => cases hi
    | cons j v => cases hlength
  rw [ho, SeqType.make_of_ne_zero _ _ hne] at h
  exact (SeqType.subtypeOf_many_iff.1 h).resolve_left (by simp)

/-! ### Maps and arrays inside -/

def ItemType.hasSignature : ItemType → Bool
  | .function (.of _ _) => true
  | _ => false

theorem ItemType.hasSignature_iff {t : ItemType} : t.hasSignature ↔ ∃ ps r, t = .function (.of ps r) := by
  unfold hasSignature
  split
  · next ps r => exact iff_of_true rfl ⟨ps, r, rfl⟩
  · next ht => exact iff_of_false (by simp) fun ⟨ps, r, h⟩ => ht ps r h

namespace Item

variable {i : Item} {t : ItemType}

/-- A type without signature that covers the runtime type of an item has no signature inside. -/
theorem plain_of_runtimeType_subtypeOf_of_not_hasSignature (ht : t.hasSignature = false)
    (h : i.runtimeType.subtypeOf t) : t.within .plain := by
  cases t with
  | item | atomic _ | node _ => rfl
  | function f =>
      cases f with
      | any => rfl
      | of ps r => cases ht
  | map k v =>
      cases i with
      | map entries =>
          obtain ⟨rfl, rfl⟩ := ItemType.anyMap_subtypeOf_map_iff.1 h
          rfl
      | _ => simp [runtimeType, ItemType.anyArray, ItemType.subtypeOf] at h
  | array m =>
      cases i with
      | array members =>
          obtain rfl := ItemType.anyArray_subtypeOf_array_iff.1 h
          rfl
      | _ => simp [runtimeType, ItemType.anyMap, ItemType.subtypeOf] at h

/-- An instance of a type other than a map or array type is covered by it as what it is at runtime. -/
theorem runtimeType_subtypeOf_of_hasInstance (ht : t.hasSignature = false) (hlookup : t.lookup? = none)
    (h : t.hasInstance i) : i.runtimeType.subtypeOf t := by
  cases hcontainer : i.isContainer with
  | false => exact (hasInstance_iff_of_not_isContainer hcontainer).1 h
  | true =>
      have hfun : i.runtimeType.isFunction := by
        cases i with
        | map _ | array _ => rfl
        | _ => cases hcontainer
      cases t with
      | item => exact ItemType.subtypeOf_item _
      | atomic _ | node _ =>
          cases i <;>
            simp_all [ItemType.hasInstance, contentType, runtimeType, ItemType.subtypeOf, isContainer]
      | function f =>
          cases f with
          | any => exact ItemType.subtypeOf_any_of_isFunction hfun
          | of ps r => cases ht
      | map _ _ | array _ => cases hlookup

end Item

/-- The items of instances survive the summary exactly if the type, unless it has a signature itself, covers
the maps and arrays among them as `map(*)` and `array(*)`. -/
theorem coverSequences_subtypeOf_many_iff {t : ItemType} (ht : t.hasSignature = false)
    {values : List Sequence} (hvalues : ∀ v ∈ values, ∀ i ∈ v, t.hasInstance i) :
    (coverSequences values).subtypeOf t.many ↔
      ∀ v ∈ values, ∀ i ∈ v, i.isContainer → i.runtimeType.subtypeOf t := by
  constructor
  · intro h v hv i hi _
    cases t with
    | map k w =>
        have hmaps : ∀ v ∈ values, ∀ i ∈ v, i.runtimeType = .anyMap := by
          intro v hv i hi
          obtain ⟨entries, rfl, _⟩ := ItemType.map_hasInstance_iff.1 (hvalues v hv i hi)
          rfl
        rw [hmaps v hv i hi]
        exact runtimeType_subtypeOf_of_summary hmaps h hv hi
    | array m =>
        have harrays : ∀ v ∈ values, ∀ i ∈ v, i.runtimeType = .anyArray := by
          intro v hv i hi
          obtain ⟨members, rfl, _⟩ := ItemType.array_hasInstance_iff.1 (hvalues v hv i hi)
          rfl
        rw [harrays v hv i hi]
        exact runtimeType_subtypeOf_of_summary harrays h hv hi
    | _ => exact Item.runtimeType_subtypeOf_of_hasInstance ht rfl (hvalues v hv i hi)
  · intro h
    have hitems : ∀ v ∈ values, ∀ i ∈ v, i.runtimeType.subtypeOf t := by
      intro v hv i hi
      cases hcontainer : i.isContainer with
      | true => exact h v hv i hi hcontainer
      | false => exact (Item.hasInstance_iff_of_not_isContainer hcontainer).1 (hvalues v hv i hi)
    by_cases hplain : t.within .plain
    · have hmany : t.many.within .plain := hplain
      refine coverSequences_subtypeOf hmany (SeqType.subtypeOf_many_iff.2 (Or.inl rfl)) fun v hv => ?_
      refine Sequence.staticType_subtypeOf rfl hplain ?_ (hitems v hv)
      simp [ItemType.many, SeqType.occurrence, Occurrence.admits, Occurrence.lower, Occurrence.upper?]
    · -- a type that is not plain covers no runtime type, so that there are no items
      refine coverSequences_subtypeOf_many_of_no_items (fun v hv i hi => hplain ?_) t
      exact Item.plain_of_runtimeType_subtypeOf_of_not_hasSignature ht (hitems v hv i hi)

/-- A summary of atomic values and nodes loses nothing. -/
theorem coverSequences_subtypeOf_many_of_not_isFunction {t : ItemType} {values : List Sequence}
    (hvalues : ∀ v ∈ values, ∀ i ∈ v, t.hasInstance i)
    (hdata : ∀ v ∈ values, ∀ i ∈ v, i.isFunction = false) : (coverSequences values).subtypeOf t.many := by
  cases ht : t.isFunction with
  | true =>
      refine coverSequences_subtypeOf_many_of_no_items (fun v hv i hi => ?_) t
      have hfun := ItemType.isFunction_of_hasInstance ht (hvalues v hv i hi)
      rw [hdata v hv i hi] at hfun
      cases hfun
  | false =>
      have hsignature : t.hasSignature = false := by
        cases t with
        | function _ => cases ht
        | _ => rfl
      refine (coverSequences_subtypeOf_many_iff hsignature hvalues).2 fun v hv i hi hcontainer => ?_
      rw [Item.not_isContainer_of_not_isFunction (hdata v hv i hi)] at hcontainer
      cases hcontainer

section Lookup

variable {s : SeqType}

theorem summary_admitted {values : List Sequence} (hvalues : ∀ v ∈ values, s.hasInstance v)
    (hne : values ≠ []) : (coverSequences values).occurrence.subtypeOf s.occurrence :=
  (occurrence_coverSequences_subtypeOf_iff hne).2 fun v hv => (SeqType.hasInstance_iff.1 (hvalues v hv)).1

/-- A map is an instance of the lookup function type if the items of its values survive the summary. -/
theorem map_lookup_iff (htest : s.test? = none) {k : AtomicType}
    {entries : List (AtomicValue × List Item)} (h : (ItemType.map k s).hasInstance (.map entries)) :
    (ItemType.function (.ofMap s)).hasInstance (.map entries) ↔
      (coverSequences (entries.map (·.2))).subtypeOf s.itemType.many := by
  obtain ⟨_, heq, hentries⟩ := ItemType.map_hasInstance_iff.1 h
  cases heq
  have hvalues : ∀ v ∈ entries.map (·.2), s.hasInstance v := by
    intro v hv
    obtain ⟨e, he, rfl⟩ := List.mem_map.1 hv
    exact (hentries e he).2
  have hocc : coverSequences (entries.map (·.2)) ≠ .empty →
      (coverSequences (entries.map (·.2))).occurrence.subtypeOf s.occurrence := by
    intro hcover
    apply summary_admitted hvalues
    rintro hnil
    rw [hnil] at hcover
    exact hcover rfl
  rw [← SeqType.optional_subtypeOf_iff htest hocc, ItemType.function_hasInstance_eq, Item.contentType,
    ItemType.subtypeOf, FunctionType.ofMap, FunctionType.ofMap, FunctionType.subtypeOf,
    SeqType.subtypeOfAll_refl, Bool.true_and]

/-- An array is an instance of the lookup function type if the items of its members survive the summary,
and if the members may be empty where there are none. -/
theorem array_lookup_iff (htest : s.test? = none) {members : List (List Item)}
    (h : (ItemType.array s).hasInstance (.array members)) :
    (ItemType.function (.ofArray s)).hasInstance (.array members) ↔
      (members = [] → s.mayBeZero) ∧ (coverSequences members).subtypeOf s.itemType.many := by
  obtain ⟨_, heq, hmembers⟩ := ItemType.array_hasInstance_iff.1 h
  cases heq
  rw [ItemType.function_hasInstance_eq, Item.contentType, ItemType.subtypeOf, FunctionType.ofArray,
    FunctionType.ofArray, FunctionType.subtypeOf, SeqType.subtypeOfAll_refl, Bool.true_and]
  by_cases hnil : members = []
  · subst hnil
    rw [coverSequences, SeqType.subtypeOf]
    simp [SeqType.subtypeOf_many_iff]
  · rw [SeqType.subtypeOf_iff_of_no_test htest, and_iff_right (summary_admitted hmembers hnil),
      SeqType.subtypeOf_many_iff, and_iff_right fun hempty => absurd hempty hnil]

end Lookup

/-- An instance of a map or array type without test is an instance of the lookup function type exactly if
the items inside survive the summary by static types, and, for an array without members, if members may be
empty. The items survive if the type of values or members, unless it has a signature itself, covers the
maps and arrays among them as `map(*)` and `array(*)`; atomic values and nodes always survive. -/
theorem lookup_instance_exact {s : SeqType} (htest : s.test? = none) :
    (∀ k entries, (ItemType.map k s).hasInstance (.map entries) →
      ((ItemType.function (.ofMap s)).hasInstance (.map entries) ↔
        (coverSequences (entries.map (·.2))).subtypeOf s.itemType.many)) ∧
    (∀ members, (ItemType.array s).hasInstance (.array members) →
      ((ItemType.function (.ofArray s)).hasInstance (.array members) ↔
        (members = [] → s.mayBeZero) ∧ (coverSequences members).subtypeOf s.itemType.many)) ∧
    (∀ values : List Sequence, (∀ v ∈ values, s.hasInstance v) → s.itemType.hasSignature = false →
      ((coverSequences values).subtypeOf s.itemType.many ↔
        ∀ v ∈ values, ∀ i ∈ v, i.isContainer → i.runtimeType.subtypeOf s.itemType)) ∧
    (∀ values : List Sequence, (∀ v ∈ values, s.hasInstance v) →
      (∀ v ∈ values, ∀ i ∈ v, i.isFunction = false) →
        (coverSequences values).subtypeOf s.itemType.many) := by
  have hitems : ∀ values : List Sequence, (∀ v ∈ values, s.hasInstance v) →
      ∀ v ∈ values, ∀ i ∈ v, s.itemType.hasInstance i := by
    intro values hvalues v hv i hi
    have hitem := (SeqType.hasInstance_iff.1 (hvalues v hv)).2 i hi
    exact (Bool.and_eq_true_iff.1 hitem).1
  refine ⟨fun _ _ => map_lookup_iff htest, fun _ => array_lookup_iff htest, ?_, ?_⟩
  · intro values hvalues hsignature
    exact coverSequences_subtypeOf_many_iff hsignature (hitems values hvalues)
  · intro values hvalues hdata
    exact coverSequences_subtypeOf_many_of_not_isFunction (hitems values hvalues) hdata

/-- A map of atomic values is a function to atomic values, and an array of a map and an array is one to
functions. -/
theorem lookup_instance_of_data_and_functions :
    let values : SeqType := .of (.atomic .anyAtomic) .zeroMore none (by decide)
    let functions : SeqType := .of (.function .any) .oneMore none (by decide)
    let table : List (AtomicValue × List Item) :=
      [(.string .string "a", [.atomic (.integer .int 1), .atomic (.boolean true)]),
        (.string .string "b", [])]
    let members : List (List Item) := [[.map table], [.array []]]
    (ItemType.function (.ofMap values)).hasInstance (.map table) ∧
      (ItemType.function (.ofArray functions)).hasInstance (.array members) := by
  intro values functions table members
  have hvalues : ∀ v ∈ table.map (·.2), values.hasInstance v := by decide +kernel
  have hmembers : ∀ v ∈ members, functions.hasInstance v := by decide +kernel
  obtain ⟨hmap, _, _, hdata⟩ := lookup_instance_exact (s := values) rfl
  obtain ⟨_, harray, hcontainers, _⟩ := lookup_instance_exact (s := functions) rfl
  refine ⟨(hmap .string table (by decide +kernel)).2 (hdata _ hvalues (by decide)), ?_⟩
  refine (harray members (by decide +kernel)).2 ⟨by decide, ?_⟩
  exact (hcontainers members hmembers rfl).2 (by decide +kernel)

/-- A map of maps of integers is an instance of its type but no function to such maps, and the array
without members is an instance of every array type but no function to integers. -/
theorem lookup_instance_lost :
    let inner : SeqType := (ItemType.map .integer (ItemType.atomic .integer).single).single
    let one : AtomicValue := .integer .integer 1
    let nested : Item := .map [(one, [.map [(one, [.atomic (.integer .integer 2)])]])]
    ((ItemType.map .integer inner).hasInstance nested ∧
      ¬(ItemType.function (.ofMap inner)).hasInstance nested) ∧
    (ItemType.array (ItemType.atomic .integer).single).hasInstance (.array []) ∧
      ¬(ItemType.function (.ofArray (ItemType.atomic .integer).single)).hasInstance (.array []) := by
  decide +kernel

end SequenceTypes
