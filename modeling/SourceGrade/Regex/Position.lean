import SourceGrade.Text.Basic

/-!
# Places in a pattern
-/

namespace SourceGrade.Regex

/-- A place between two characters. Lines and columns count from one. -/
structure Position where
  line : Nat := 1
  column : Nat := 1
deriving DecidableEq

/-- The place behind a character. -/
def Position.after (p : Position) (c : Char) : Position :=
  if c = '\n' then ⟨p.line + 1, 1⟩ else ⟨p.line, p.column + 1⟩

structure Span where
  start : Position
  stop : Position
deriving DecidableEq

namespace Span

/-- The span without characters at a place. -/
def empty (p : Position) : Span := ⟨p, p⟩

def isOneLine (s : Span) : Bool := s.start.line == s.stop.line

/-- The least span that covers two. -/
def upTo (s t : Span) : Span := ⟨s.start, t.stop⟩

end Span

end SourceGrade.Regex
