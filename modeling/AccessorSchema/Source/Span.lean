/-! # Places in a source text

Lines count from one, columns from zero in characters; a span is half open. -/

namespace AccessorSchema

structure Pos where
  line : Nat
  column : Nat
deriving DecidableEq, Repr, Inhabited

structure Span where
  start : Pos
  stop : Pos
deriving DecidableEq, Repr, Inhabited

namespace Pos

/-- The beginning of a text. -/
def origin : Pos := ⟨1, 0⟩

def next (p : Pos) (c : Char) : Pos :=
  if c == '\n' then ⟨p.line + 1, 0⟩ else ⟨p.line, p.column + 1⟩

/-- The place behind `text` when it starts at `p`. -/
def advance (p : Pos) (text : List Char) : Pos := text.foldl next p

end Pos

namespace Span

/-- The place given to errors that have none of their own. -/
def origin : Span := ⟨.origin, .origin⟩

/-- From the start of one span to the end of another. -/
def through (a b : Span) : Span := ⟨a.start, b.stop⟩

/-- The first character of a span that neither starts nor ends with a line break. -/
def first (s : Span) : Span := ⟨s.start, ⟨s.start.line, s.start.column + 1⟩⟩

/-- The last character of such a span. -/
def last (s : Span) : Span := ⟨⟨s.stop.line, s.stop.column - 1⟩, s.stop⟩

end Span

/-- A value together with the place it was read from. -/
structure Located (α : Type) where
  value : α
  span : Span
deriving Inhabited

namespace Located

variable {α β : Type}

def map (f : α → β) (x : Located α) : Located β := ⟨f x.value, x.span⟩

/-- A value that was not read from a text. -/
def nowhere (x : α) : Located α := ⟨x, .origin⟩

end Located

end AccessorSchema
