/-! Positions in a query: byte ranges, and the line and column of a byte offset. An offset inside a
character, or past the end, counts as the character boundary before it. -/

namespace SequenceTypes

/-- A range of bytes. -/
structure Span where
  /-- The first byte. -/
  start : Nat
  /-- The byte after the last. -/
  stop : Nat
  deriving DecidableEq

namespace Span

def length (s : Span) : Nat := s.stop - s.start

def isEmpty (s : Span) : Bool := s.stop ≤ s.start

def text (s : Span) : String := s!"{s.start}..{s.stop}"

end Span

/-- The character boundary at or before a byte offset. Inside a character it goes back byte by byte, which
ends at the start of the text at the latest. -/
def floorPosition (query : String) (offset : Nat) : query.Pos :=
  if h : (String.Pos.Raw.mk offset).IsValid query then ⟨⟨offset⟩, h⟩
  else floorPosition query (offset - 1)
termination_by offset
decreasing_by exact Nat.sub_one_lt fun hzero => h (hzero ▸ String.Pos.Raw.isValid_zero)

def textBefore (query : String) (offset : Nat) : String :=
  (query.sliceTo (floorPosition query (min offset query.utf8ByteSize))).copy

/-- The line and column, both from 1, after some characters. -/
def lineColumnAfter (cs : List Char) : Nat × Nat :=
  (cs.count '\n' + 1, (cs.reverse.takeWhile (· ≠ '\n')).length + 1)

/-- The line and column of a byte offset. -/
def lineColumn (query : String) (offset : Nat) : Nat × Nat :=
  lineColumnAfter (textBefore query offset).toList

/-- Where an expression stands in a query. -/
structure Location where
  line : Nat
  column : Nat
  /-- Bytes before the expression. -/
  offset : Nat
  /-- Bytes of the expression. -/
  length : Nat
  deriving DecidableEq

namespace Location

/-- The start of a query. -/
def origin : Location := ⟨1, 1, 0, 0⟩

/-- The location of a span of a query. -/
def ofSpan (span : Span) (query : String) : Location :=
  let (line, column) := lineColumn query span.start
  ⟨line, column, span.start, span.length⟩

def span (l : Location) : Span := ⟨l.offset, l.offset + l.length⟩

def text (l : Location) : String := s!"{l.line}:{l.column}"

end Location
end SequenceTypes
