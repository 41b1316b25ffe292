import SequenceTypes.Catalog.Static

/-! Sessions: a run of type constructions and questions that share one catalogue. Each step reads the results
of earlier steps from registers and leaves its own in the next one. -/

namespace SequenceTypes

/-- A construction, or a question; numbers are registers. -/
inductive Step where
  | get (type : SeqType)
  | static (value : Sequence)
  | withOccurrence (register : Nat) (occurrence : Occurrence)
  | withSize (register : Nat) (size? : Option Nat)
  /-- The type of exactly one item of the same item type. -/
  | single (register : Nat)
  | union (left right : Nat)
  | intersect (left right : Nat)
  | itemUnion (left right : Nat) (occurrence : Occurrence)
  | itemIntersect (left right : Nat) (occurrence : Occurrence)
  | function (params : List Nat) (result : Nat) (occurrence : Occurrence)
  | map (key : AtomicType) (value : Nat) (occurrence : Occurrence)
  | array (member : Nat) (occurrence : Occurrence)
  /-- The lookup function of a map or array. -/
  | lookup (register : Nat)
  | askSubtypeOf (left right : Nat)
  | askPromotable (left right : Nat)
  | askEqual (left right : Nat)
  | askInstance (register : Nat) (value : Sequence)

/-- What a step leaves behind. -/
inductive Outcome where
  | type (type : SeqType)
  | answer (yes : Bool)
  /-- There is no such type. -/
  | nothing
  /-- The step cannot be carried out. -/
  | invalid

namespace Outcome

def ofType? : Option SeqType → Outcome
  | some t => type t
  | none => nothing

/-- What later steps find in the register of the step. -/
def register : Outcome → Option SeqType
  | type t => some t
  | _ => none

end Outcome

/-- The state of a session. -/
structure Session where
  catalog : Catalog
  registers : List (Option SeqType)

namespace Session

def start : Session := ⟨.empty, []⟩

def read? (s : Session) (register : Nat) : Option SeqType := (s.registers[register]?).join

/-- What is done with the type in a register, if there is one. -/
def reading {α : Type} (s : Session) (register : Nat) (missing : α) (f : SeqType → α) : α :=
  (s.read? register).elim missing f

/-- What is done with the types in two registers. -/
def reading₂ {α : Type} (s : Session) (left right : Nat) (missing : α) (f : SeqType → SeqType → α) : α :=
  s.reading left missing fun t => s.reading right missing fun u => f t u

/-- What a step asks of the catalogue. -/
def request (s : Session) : Step → StateM Catalog Outcome
  | .get t => .type <$> t.settle
  | .static v => .type <$> v.settledStaticType
  | .withOccurrence r o => s.reading r (pure .invalid) fun t => .type <$> t.settledWithOccurrence o
  | .withSize r size? => s.reading r (pure .invalid) fun t =>
    .type <$> t.settledWithOccurrence (.ofSize size?)
  | .single r => s.reading r (pure .invalid) fun t => .type <$> Catalog.form t.itemType .one none
  | .union a b => s.reading₂ a b (pure .invalid) fun t u => .type <$> t.settledUnion u
  | .intersect a b => s.reading₂ a b (pure .invalid) fun t u => .ofType? <$> t.settledIntersect? u
  | .itemUnion a b o => s.reading₂ a b (pure .invalid) fun t u => do
    let cover ← t.itemType.settledUnion u.itemType
    .type <$> Catalog.form cover o none
  | .itemIntersect a b o => s.reading₂ a b (pure .invalid) fun t u => do
    match ← t.itemType.settledIntersect? u.itemType with
    | some common => .type <$> Catalog.form common o none
    | none => return .nothing
  | .function ps r o => (ps.mapM s.read?).elim (pure .invalid) fun params =>
    s.reading r (pure .invalid) fun result =>
      .type <$> Catalog.form (.function (.of params result)) o none
  | .map k r o => s.reading r (pure .invalid) fun t => .type <$> Catalog.form (.map k t) o none
  | .array r o => s.reading r (pure .invalid) fun t => .type <$> Catalog.form (.array t) o none
  | .lookup r => s.reading r (pure .invalid) fun t => do
    match ← t.itemType.settledLookup? with
    | some f => .type <$> Catalog.form (.function f) .one none
    | none => return .nothing
  | .askSubtypeOf a b => s.reading₂ a b (pure .invalid) fun t u => .answer <$> t.settledSubtypeOf u
  | .askPromotable a b => s.reading₂ a b (pure .invalid) fun t u => .answer <$> t.settledPromotable u
  | .askEqual a b => s.reading₂ a b (pure .invalid) fun t u => pure (.answer (t == u))
  | .askInstance r v => s.reading r (pure .invalid) fun t => .answer <$> t.settledHasInstance v

def advance (s : Session) (step : Step) : Outcome × Session :=
  let reply := s.request step s.catalog
  (reply.1, ⟨reply.2, s.registers ++ [reply.1.register]⟩)

/-- Leaves a register empty for a step that cannot be read. -/
def skip (s : Session) : Session := { s with registers := s.registers ++ [none] }

def run (s : Session) : List Step → List Outcome × Session
  | [] => ([], s)
  | step :: steps =>
    let (outcome, s) := s.advance step
    let (outcomes, s) := s.run steps
    (outcome :: outcomes, s)

end Session
end SequenceTypes
