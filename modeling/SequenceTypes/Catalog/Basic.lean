import SequenceTypes.SeqType.Basic

/-! The catalogue of single types. There is one representative of every type of exactly one item without
test: the first one that was asked for. Since equality ignores the prefixes of names, the representative
may be written with other prefixes than the type it stands for. -/

namespace SequenceTypes

/-- The representative that was made for an item type. -/
structure Catalog.Entry where
  key : ItemType
  type : SeqType

/-- The representatives, in the order in which they were first asked for. -/
structure Catalog where
  entries : List Catalog.Entry

namespace Catalog

def empty : Catalog := ⟨[]⟩

/-- The representative for an item type. -/
def find? (c : Catalog) (t : ItemType) : Option SeqType :=
  (c.entries.find? (·.key == t)).map Entry.type

/-- The representative for an item type, which is made if there is none. -/
def intern (t : ItemType) : StateM Catalog SeqType := fun c =>
  match c.find? t with
  | some representative => (representative, c)
  | none => (t.single, ⟨c.entries ++ [⟨t, t.single⟩]⟩)

/-- The type of an item type, an occurrence and a test; a single type without test is the
representative. -/
def form (t : ItemType) (o : Occurrence) (k : Option KindTest) : StateM Catalog SeqType :=
  if o = .one && k.isNone then intern t else pure (.make t o k)

end Catalog

namespace SeqType

/-- The representative of a type, if it is a single type without test, and else the type itself. -/
def settle (s : SeqType) : StateM Catalog SeqType := Catalog.form s.itemType s.occurrence s.test?

/-- The same type with another occurrence, from the catalogue. -/
def settledWithOccurrence (s : SeqType) (o : Occurrence) : StateM Catalog SeqType :=
  (s.withOccurrence o).settle

end SeqType

/-- A map or array type seen as a function type, whose parameter is a representative. -/
def ItemType.settledLookup? : ItemType → StateM Catalog (Option FunctionType)
  | .map _ v => do
    let key ← Catalog.intern (.atomic .anyAtomic)
    let value ← v.settledWithOccurrence (v.occurrence.union .zeroOne)
    return some (.of [key] value)
  | .array m => do
    let position ← Catalog.intern (.atomic .integer)
    return some (.of [position] m)
  | _ => pure none

end SequenceTypes
