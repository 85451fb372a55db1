import SourceGrade.Regex.Basic
import SourceGrade.Regex.Position
import SourceGrade.Unicode.Query

/-!
# Trees of patterns

A pattern as it is written. What it stands for depends on the flags that hold at each place, and is
found in a second step.
-/

namespace SourceGrade.Regex

inductive Flag where
  | ignoreCase
  | multiLine
  | dotAll
  | swapGreed
  | unicode
  | crlf
  | spaced
deriving DecidableEq

/-- Flags that are set or cleared, each at most once. -/
abbrev FlagChanges := List (Flag × Bool)

structure Literal where
  span : Span
  char : Char
  /-- Whether it is written as a byte of two digits. -/
  isByte : Bool := false
deriving DecidableEq

inductive Shorthand where
  | digit
  | space
  | word
deriving DecidableEq

inductive Posix where
  | alnum
  | alpha
  | ascii
  | blank
  | cntrl
  | digit
  | graph
  | lower
  | print
  | punct
  | space
  | upper
  | word
  | xdigit
deriving DecidableEq

inductive ClassName where
  | shorthand (kind : Shorthand)
  | posix (kind : Posix)
  | property (query : Unicode.Query)

structure NamedClass where
  span : Span
  negated : Bool
  name : ClassName

inductive Assertion where
  | lineStart
  | lineStop
  | textStart
  | textStop
  | word (edge : WordEdge)
deriving DecidableEq

inductive SetOperator where
  | intersection
  | difference
  | symmetricDifference
deriving DecidableEq

/-- What stands between brackets. -/
inductive Bracket where
  | empty (span : Span)
  | literal (l : Literal)
  | range (low high : Literal)
  | named (c : NamedClass)
  | nested (span : Span) (negated : Bool) (inside : Bracket)
  | union (span : Span) (members : List Bracket)
  | combined (operator : SetOperator) (left right : Bracket)

def Bracket.span : Bracket → Span
  | empty span => span
  | literal l => l.span
  | range low high => low.span.upTo high.span
  | named c => c.span
  | nested span _ _ => span
  | union span _ => span
  | combined _ left right => left.span.upTo right.span

/-- A single member stands for itself. -/
def Bracket.ofMembers (place : Position) (members : List Bracket) : Bracket :=
  match members with
  | [] => empty (.empty place)
  | [member] => member
  | first :: rest => union (first.span.upTo ((rest.getLast?.getD first).span)) members

inductive Tree where
  | empty (span : Span)
  | flags (span : Span) (changes : FlagChanges)
  | literal (l : Literal)
  | dot (span : Span)
  | assertion (span : Span) (a : Assertion)
  | named (c : NamedClass)
  | bracketed (b : Bracket)
  | repetition (span : Span) (body : Tree) (least : Nat) (most : Option Nat)
  /-- A group that captures what it matches has no changes of flags. -/
  | group (span : Span) (changes : Option FlagChanges) (body : Tree)
  | alternation (span : Span) (branches : List Tree)
  | concatenation (span : Span) (parts : List Tree)

namespace Tree

def span : Tree → Span
  | empty span | flags span _ | dot span | assertion span _ | repetition span _ _ _
  | group span _ _ | alternation span _ | concatenation span _ => span
  | literal l => l.span
  | named c => c.span
  | bracketed b => b.span

def ofParts (span : Span) : List Tree → Tree
  | [] => empty span
  | [part] => part
  | parts => concatenation span parts

def ofBranches (span : Span) : List Tree → Tree
  | [branch] => branch
  | branches => alternation span branches

end Tree

end SourceGrade.Regex
