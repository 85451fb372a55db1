import SourceGrade.Text.WordChar

/-!
# Patterns of literals

A pattern looks for one of several literals, wherever it stands or only at a word boundary. A scan
goes from left to right; at each position the first literal of the pattern that starts there is a
match, and the scan goes on behind it, so that matches never overlap.
-/

namespace SourceGrade

structure Pattern where
  literals : List Text
  atBoundary : Bool := false

namespace Pattern

/-- Whether exactly one of two neighbouring positions holds a word character. -/
def isBoundary (before after : Option Char) : Bool :=
  before.any Text.isWordChar != after.any Text.isWordChar

/-- The literal that matches at the start of `text`, where `before` is the character in front. -/
def matchAt (p : Pattern) (before : Option Char) (text : Text) : Option Text :=
  match p.literals.find? (·.isPrefixOf text) with
  | some literal => if p.atBoundary && !isBoundary before text.head? then none else some literal
  | none => none

/-- The matches in a text whose first `covered` characters belong to an earlier match. -/
def scan (p : Pattern) (before : Option Char) (covered : Nat) : Text → List Text
  | [] => []
  | c :: rest =>
    match covered with
    | covered + 1 => p.scan (some c) covered rest
    | 0 =>
      match p.matchAt before (c :: rest) with
      | some literal => literal :: p.scan (some c) (literal.length - 1) rest
      | none => p.scan (some c) 0 rest

/-- All matches in a text, by position. -/
def findAll (p : Pattern) (text : Text) : List Text := p.scan none 0 text

end Pattern

end SourceGrade
