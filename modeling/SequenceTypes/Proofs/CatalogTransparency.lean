import SequenceTypes.Catalog.Session
import SequenceTypes.Proofs.CatalogGrowth

/-! Sessions do not depend on the catalogue. Main statement: from every catalogue that a session may leave
behind, a run gives the types it gives from the empty catalogue, equal up to the prefixes of names, and no
question about these types tells the two apart. One step is described by its outcome without a catalogue, on
registers without prefixes; the rest is an induction on the steps. -/

namespace SequenceTypes

open Catalog

namespace Outcome

/-- Equality of outcomes, up to the prefixes of names. -/
def beq : Outcome → Outcome → Bool
  | type a, type b => a == b
  | answer a, answer b => a == b
  | nothing, nothing => true
  | invalid, invalid => true
  | _, _ => false

instance : BEq Outcome := ⟨beq⟩

def bare : Outcome → Outcome
  | type t => type t.bare
  | outcome => outcome

theorem beq_iff_bare (a b : Outcome) : a == b ↔ a.bare = b.bare := by
  show a.beq b ↔ _
  cases a with
  | type s =>
      cases b with
      | type t =>
          rw [beq, bare, bare, type.injEq]
          exact SeqType.beq_iff_bare
      | _ => simp [beq, bare]
  | _ => cases b <;> simp [beq, bare]

theorem register_bare (a : Outcome) : a.bare.register = a.register.map SeqType.bare := by
  cases a <;> rfl

end Outcome

def Step.bare : Step → Step
  | .get t => .get t.bare
  | .static v => .static (Sequence.bare v)
  | .askInstance r v => .askInstance r (Sequence.bare v)
  | step => step

namespace Session

/-- The registers alone, without prefixes. -/
def bare (s : Session) : Session := ⟨.empty, s.registers.map (·.map SeqType.bare)⟩

theorem bare_eq_iff {s s' : Session} : s.bare = s'.bare ↔ s.registers == s'.registers := by
  have hregisters : s.registers == s'.registers ↔
      s.registers.map (·.map SeqType.bare) = s'.registers.map (·.map SeqType.bare) :=
    list_beq_iff_map fun _ _ => option_beq_iff_map fun _ _ => SeqType.beq_iff_bare
  rw [hregisters, bare, bare, mk.injEq]
  exact and_iff_right rfl

variable (s : Session)

theorem read?_bare (register : Nat) : s.bare.read? register = (s.read? register).map SeqType.bare := by
  rw [read?, read?, bare, List.getElem?_map]
  cases s.registers[register]? with
  | none => rfl
  | some t? => cases t? <;> rfl

theorem mapM_read?_bare (registers : List Nat) :
    registers.mapM s.bare.read? = (registers.mapM s.read?).map SeqType.bareAll := by
  induction registers with
  | nil => rfl
  | cons r rs ih =>
      rw [List.mapM_cons, List.mapM_cons, ih, read?_bare]
      cases s.read? r with
      | none => rfl
      | some t => cases rs.mapM s.read? <;> rfl

/-- The outcome of a step without a catalogue. -/
def plain : Step → Outcome
  | .get t => .type t
  | .static v => .type v.staticType
  | .withOccurrence r o => s.reading r .invalid fun t => .type (t.withOccurrence o)
  | .withSize r size? => s.reading r .invalid fun t => .type (t.withOccurrence (.ofSize size?))
  | .single r => s.reading r .invalid fun t => .type t.itemType.single
  | .union a b => s.reading₂ a b .invalid fun t u => .type (t.union u)
  | .intersect a b => s.reading₂ a b .invalid fun t u => .ofType? (t.intersect? u)
  | .itemUnion a b o => s.reading₂ a b .invalid fun t u =>
    .type (.make (t.itemType.union u.itemType) o none)
  | .itemIntersect a b o => s.reading₂ a b .invalid fun t u =>
    .ofType? ((t.itemType.intersect? u.itemType).map (.make · o none))
  | .function ps r o => (ps.mapM s.read?).elim .invalid fun params =>
    s.reading r .invalid fun result => .type (.make (.function (.of params result)) o none)
  | .map k r o => s.reading r .invalid fun t => .type (.make (.map k t) o none)
  | .array r o => s.reading r .invalid fun t => .type (.make (.array t) o none)
  | .lookup r => s.reading r .invalid fun t =>
    .ofType? (t.itemType.lookup?.map fun f => (ItemType.function f).single)
  | .askSubtypeOf a b => s.reading₂ a b .invalid fun t u => .answer (t.subtypeOf u)
  | .askPromotable a b => s.reading₂ a b .invalid fun t u => .answer (t.promotable u)
  | .askEqual a b => s.reading₂ a b .invalid fun t u => .answer (t == u)
  | .askInstance r v => s.reading r .invalid fun t => .answer (t.hasInstance v)

variable {s}

/-- From every catalogue a request has an outcome, up to prefixes. -/
def Serves (request : StateM Catalog Outcome) (outcome : Outcome) : Prop := Yields request (·.bare = outcome)

theorem Serves.reading {request : SeqType → StateM Catalog Outcome} {outcome : SeqType → Outcome}
    (h : ∀ t, Serves (request t) (outcome t.bare)) (register : Nat) :
    Serves (s.reading register (pure .invalid) request) (s.bare.reading register .invalid outcome) := by
  rw [Session.reading, Session.reading, read?_bare]
  cases s.read? register with
  | none => exact yields_pure rfl
  | some t => exact h t

theorem Serves.reading₂ {request : SeqType → SeqType → StateM Catalog Outcome}
    {outcome : SeqType → SeqType → Outcome} (h : ∀ t u, Serves (request t u) (outcome t.bare u.bare))
    (left right : Nat) :
    Serves (s.reading₂ left right (pure .invalid) request) (s.bare.reading₂ left right .invalid outcome) :=
  .reading (fun t => .reading (h t) right) left

/-- A type that a computation yields up to prefixes. -/
theorem serves_type {m : StateM Catalog SeqType} {t u : SeqType} (hm : Yields m (·.bare = t.bare))
    (htu : t.bare = u) : Serves (.type <$> m) (.type u) := by
  refine hm.map fun r hr => ?_
  rw [Outcome.bare, hr, htu]

/-- A type that is formed from an item type, up to prefixes. -/
theorem serves_form {t u : ItemType} (htu : t.bare = u.bare) (o : Occurrence) :
    Serves (.type <$> Catalog.form t o none) (.type (.make u.bare o none)) :=
  serves_type (yields_form htu o none) (SeqType.make_bare u o none).symm

theorem serves_answer {m : StateM Catalog Bool} {a b : Bool} (hm : Yields m (· = a)) (hab : a = b) :
    Serves (.answer <$> m) (.answer b) := by
  refine hm.map fun c hc => ?_
  rw [hc, hab]
  rfl

variable (s)

/-- What a step asks of the catalogue has the outcome without one. -/
theorem serves_request (step : Step) : Serves (s.request step) (s.bare.plain step.bare) := by
  cases step with
  | get t => exact serves_type t.yields_settle rfl
  | static v => exact serves_type v.yields_settledStaticType v.staticType_bare.symm
  | withOccurrence r o =>
      refine .reading (fun t => ?_) r
      exact serves_type (t.withOccurrence o).yields_settle (t.withOccurrence_bare o).symm
  | withSize r size? =>
      refine .reading (fun t => ?_) r
      exact serves_type (SeqType.yields_settle _) (t.withOccurrence_bare _).symm
  | single r =>
      refine .reading (fun t => ?_) r
      rw [t.itemType_bare, ItemType.single_bare]
      exact serves_type (yields_form rfl .one none) rfl
  | union a b =>
      exact .reading₂ (fun t u => serves_type (t.yields_settledUnion u) (t.union_bare u).symm) a b
  | intersect a b =>
      refine .reading₂ (fun t u => (t.yields_settledIntersect? u).map fun common? h => ?_) a b
      rw [t.intersect?_bare, ← h]
      cases common? <;> rfl
  | itemUnion a b o =>
      refine .reading₂ (fun t u => ?_) a b
      rw [t.itemType_bare, u.itemType_bare, ItemType.union_bare]
      refine (t.itemType.yields_settledUnion u.itemType).bind fun cover hcover => ?_
      exact serves_form hcover o
  | itemIntersect a b o =>
      refine .reading₂ (fun t u => ?_) a b
      rw [t.itemType_bare, u.itemType_bare, ItemType.intersect?_bare]
      refine (t.itemType.yields_settledIntersect? u.itemType).bind fun common? hcommon => ?_
      obtain ⟨rfl, hnone⟩ | ⟨x, y, rfl, hsome, hxy⟩ := cases_of_map_eq_map hcommon
      · rw [hnone]
        exact yields_pure rfl
      · rw [hsome]
        exact serves_form hxy o
  | function ps r o =>
      show Serves ((ps.mapM s.read?).elim _ _) ((ps.mapM s.bare.read?).elim _ _)
      rw [mapM_read?_bare]
      cases ps.mapM s.read? with
      | none => exact yields_pure rfl
      | some params =>
          exact .reading (fun t => serves_form (u := .function (.of params t)) rfl o) r
  | map k r o => exact .reading (fun t => serves_form (u := .map k t) rfl o) r
  | array r o => exact .reading (fun t => serves_form (u := .array t) rfl o) r
  | lookup r =>
      refine .reading (fun t => ?_) r
      rw [t.itemType_bare, t.itemType.lookup?_bare]
      refine t.itemType.yields_settledLookup?.bind fun f? hf => ?_
      obtain ⟨rfl, hnone⟩ | ⟨f, g, rfl, hsome, hfg⟩ := cases_of_map_eq_map hf
      · rw [hnone]
        exact yields_pure rfl
      · rw [hsome]
        have hbare : (ItemType.function f).bare = (ItemType.function g).bare := congrArg ItemType.function hfg
        exact serves_type (yields_form hbare .one none) rfl
  | askSubtypeOf a b =>
      exact .reading₂ (fun t u => serves_answer (t.yields_settledSubtypeOf u) (t.subtypeOf_bare u).symm) a b
  | askPromotable a b =>
      exact .reading₂ (fun t u => serves_answer (t.yields_settledPromotable u) (t.promotable_bare u).symm) a b
  | askEqual a b =>
      refine .reading₂ (fun t u => yields_pure ?_) a b
      rw [t.beq_bare u]
      rfl
  | askInstance r v =>
      exact .reading (fun t => serves_answer (t.yields_settledHasInstance v) (t.hasInstance_bare v).symm) r

/-- A step adds to the catalogue at most, and leaves the outcome without a catalogue, up to prefixes. -/
theorem advance_spec (hs : s.catalog.WellFormed) (step : Step) :
    s.catalog.Grows (s.advance step).2.catalog ∧
      (s.advance step).1.bare = s.bare.plain step.bare ∧
      (s.advance step).2.bare = ⟨.empty, s.bare.registers ++ [(s.bare.plain step.bare).register]⟩ := by
  obtain ⟨houtcome, hgrows⟩ := s.serves_request step s.catalog hs
  refine ⟨hgrows, houtcome, ?_⟩
  rw [← houtcome, Outcome.register_bare]
  simp [bare, advance]

/-! ### Runs -/

variable {s} {s' : Session}

theorem run_grows (hs : s.catalog.WellFormed) (steps : List Step) :
    s.catalog.Grows (s.run steps).2.catalog := by
  induction steps generalizing s with
  | nil => exact hs.grows
  | cons step steps ih =>
      obtain ⟨hgrows, -, -⟩ := s.advance_spec hs step
      exact hgrows.trans (ih hgrows.wellFormed)

/-- Runs of the same steps on the same registers, both up to prefixes, are the same up to prefixes. -/
theorem run_bare (hc : s.catalog.WellFormed) (hc' : s'.catalog.WellFormed) (hs : s.bare = s'.bare)
    {steps steps' : List Step} (hsteps : steps.map Step.bare = steps'.map Step.bare) :
    (s.run steps).1.map Outcome.bare = (s'.run steps').1.map Outcome.bare ∧
      (s.run steps).2.bare = (s'.run steps').2.bare := by
  induction steps generalizing s s' steps' with
  | nil =>
      obtain rfl := List.map_eq_nil_iff.1 hsteps.symm
      exact ⟨rfl, hs⟩
  | cons step steps ih =>
      obtain ⟨step', rest', rfl, hstep, hrest⟩ := List.map_eq_cons_iff.1 hsteps.symm
      obtain ⟨hgrows, hone, hnext⟩ := s.advance_spec hc step
      obtain ⟨hgrows', hone', hnext'⟩ := s'.advance_spec hc' step'
      rw [← hs, hstep] at hone' hnext'
      obtain ⟨houtcomes, hlast⟩ :=
        ih hgrows.wellFormed hgrows'.wellFormed (hnext.trans hnext'.symm) hrest.symm
      refine ⟨?_, hlast⟩
      rw [run, run, List.map_cons, List.map_cons, houtcomes, hone, hone']

end Session

/-- The catalogues that sessions leave behind. -/
inductive Catalog.Reachable : Catalog → Prop where
  | empty : Reachable .empty
  | advance {s : Session} (step : Step) (before : Reachable s.catalog) :
      Reachable (s.advance step).2.catalog

theorem Catalog.Reachable.wellFormed {c : Catalog} (hc : c.Reachable) : c.WellFormed := by
  induction hc with
  | empty => exact wellFormed_empty
  | advance step _ ih => exact (Session.advance_spec _ ih step).1.wellFormed

/-- A type has its entry, or gets one, and the catalogue does not change otherwise. -/
theorem Catalog.WellFormed.form_one {c : Catalog} (hc : c.WellFormed) (t : ItemType) :
    ∃ (r : SeqType) (c' : Catalog), form t .one none c = (r, c') ∧ Represents r t ∧ c'.find? t = some r ∧
      (c.find? t = none ∨ c.find? t = some r ∧ c' = c) := by
  show ∃ (r : SeqType) (c' : Catalog), intern t c = (r, c') ∧ _
  unfold intern
  cases hfind : c.find? t with
  | some r => exact ⟨r, c, rfl, hc.represents_of_find? hfind, hfind, Or.inr ⟨rfl, rfl⟩⟩
  | none =>
      refine ⟨t.single, _, rfl, represents_single t, ?_, Or.inl rfl⟩
      rw [find?, List.find?_append, Option.map_eq_none_iff.1 hfind, Option.none_or, List.find?_singleton]
      simp

/-- No question about the types in their registers tells two sessions apart. -/
structure Session.Indistinguishable (s s' : Session) : Prop where
  registers : s.registers == s'.registers
  subtypeOf : ∀ {i j : Nat} {a b a' b' : SeqType}, s.read? i = some a → s.read? j = some b →
    s'.read? i = some a' → s'.read? j = some b' → a.subtypeOf b = a'.subtypeOf b'
  promotable : ∀ {i j : Nat} {a b a' b' : SeqType}, s.read? i = some a → s.read? j = some b →
    s'.read? i = some a' → s'.read? j = some b' → a.promotable b = a'.promotable b'
  equal : ∀ {i j : Nat} {a b a' b' : SeqType}, s.read? i = some a → s.read? j = some b →
    s'.read? i = some a' → s'.read? j = some b' → (a == b) = (a' == b')
  hasInstance : ∀ {i : Nat} {a a' : SeqType} {v v' : Sequence}, s.read? i = some a →
    s'.read? i = some a' → Sequence.bare v = Sequence.bare v' → a.hasInstance v = a'.hasInstance v'

namespace Session

variable {s s' : Session}

theorem bare_eq_of_read? (hs : s.bare = s'.bare) {i : Nat} {a a' : SeqType} (ha : s.read? i = some a)
    (ha' : s'.read? i = some a') : a.bare = a'.bare := by
  have h := s.read?_bare i
  rw [hs, read?_bare, ha, ha'] at h
  exact (Option.some.inj h).symm

theorem indistinguishable_of_bare (hs : s.bare = s'.bare) : s.Indistinguishable s' where
  registers := bare_eq_iff.1 hs
  subtypeOf ha hb ha' hb' := by
    rw [← SeqType.subtypeOf_bare, bare_eq_of_read? hs ha ha', bare_eq_of_read? hs hb hb',
      SeqType.subtypeOf_bare]
  promotable ha hb ha' hb' := by
    rw [← SeqType.promotable_bare, bare_eq_of_read? hs ha ha', bare_eq_of_read? hs hb hb',
      SeqType.promotable_bare]
  equal ha hb ha' hb' := by
    rw [← SeqType.beq_bare, bare_eq_of_read? hs ha ha', bare_eq_of_read? hs hb hb', SeqType.beq_bare]
  hasInstance ha ha' hv := by
    rw [← SeqType.hasInstance_bare, bare_eq_of_read? hs ha ha', hv, SeqType.hasInstance_bare]

/-- The catalogue does not show. A catalogue that a session left behind has one entry for each class of
equal types, a single type without test that is kept for good; and runs from it and from the empty
catalogue, of the same steps on the same registers up to prefixes, have equal outcomes, answers to questions
included, and leave sessions behind that cannot be told apart. -/
theorem catalog_transparent {c : Catalog} (hc : c.Reachable) :
    c.WellFormed ∧
    (∀ t, ∃ (r : SeqType) (c' : Catalog), form t .one none c = (r, c') ∧ Represents r t ∧
      c'.find? t = some r ∧ (c.find? t = none ∨ c.find? t = some r ∧ c' = c)) ∧
    (∀ t r registers steps, c.find? t = some r →
      (run ⟨c, registers⟩ steps).2.catalog.find? t = some r) ∧
    (∀ (registers registers' : List (Option SeqType)) (steps steps' : List Step),
      registers == registers' → steps.map Step.bare = steps'.map Step.bare →
      (run ⟨c, registers⟩ steps).1 == (run ⟨.empty, registers'⟩ steps').1 ∧
        (run ⟨c, registers⟩ steps).2.Indistinguishable (run ⟨.empty, registers'⟩ steps').2) := by
  have hwell := hc.wellFormed
  refine ⟨hwell, hwell.form_one, ?_, ?_⟩
  · intro t r registers steps hr
    exact (run_grows (s := ⟨c, registers⟩) hwell steps).find?_eq_some hr
  · intro registers registers' steps steps' hregisters hsteps
    have hs : bare ⟨c, registers⟩ = bare ⟨.empty, registers'⟩ := bare_eq_iff.2 hregisters
    obtain ⟨houtcomes, hlast⟩ := run_bare hwell wellFormed_empty hs hsteps
    exact ⟨(list_beq_iff_map Outcome.beq_iff_bare).2 houtcomes, indistinguishable_of_bare hlast⟩

/-- Arrays of elements that were first asked for with another prefix: the catalogue gives the type with that
prefix, which goes into the types built on it. -/
theorem catalog_transparent_after_other_prefix :
    let arrays (p : String) : SeqType := (ItemType.array (.of (.node .element) .zeroMore
      (some ⟨.element, .name ⟨⟨some "uri", "e"⟩, some p⟩⟩) (by decide))).single
    let used := (start.advance (.get (arrays "one"))).2.catalog
    let steps : List Step :=
      [.get (arrays "two"), .map .string 0 .oneMore, .union 0 1, .lookup 1, .askSubtypeOf 1 3]
    used.Reachable ∧ (run ⟨used, []⟩ steps).2.read? 0 = some (arrays "one") ∧
      (run start steps).2.read? 0 = some (arrays "two") ∧
      (run ⟨used, []⟩ steps).1 == (run start steps).1 ∧
      (run ⟨used, []⟩ steps).2.Indistinguishable (run start steps).2 := by
  intro arrays used steps
  have hused : used.Reachable := .advance (.get (arrays "one")) .empty
  obtain ⟨-, -, -, hrun⟩ := catalog_transparent hused
  refine ⟨hused, ?_, ?_, hrun [] [] steps steps rfl rfl⟩
  · with_unfolding_all rfl
  · with_unfolding_all rfl

end Session
end SequenceTypes
