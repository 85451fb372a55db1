import SourceGrade.Text.WordChar

/-!
# Regular expressions

A regular expression describes texts by classes of characters, by assertions about the characters
around a place, and by ways to put such descriptions together.
-/

namespace SourceGrade

/-- The edges of words: any, none, where words start or stop, and what is enough for either on one
side of the place. -/
inductive WordEdge where
  | any
  | none
  | start
  | stop
  | startHalf
  | stopHalf
deriving DecidableEq

/-- Whether a place is such an edge, given whether there are word characters in front of it and
behind it. -/
def WordEdge.holds (before behind : Bool) : WordEdge → Bool
  | any => before != behind
  | none => before == behind
  | start => !before && behind
  | stop => before && !behind
  | startHalf => !before
  | stopHalf => !behind

/-- An assertion about a place of a text. -/
inductive Look where
  | textStart
  | textStop
  | lineStart
  | lineStop
  /-- The start of a line, where lines end with a line feed, a carriage return or both. -/
  | anyLineStart
  /-- The end of such a line. -/
  | anyLineStop
  | word (edge : WordEdge)
  /-- The edge of a word of ASCII characters. -/
  | asciiWord (edge : WordEdge)
deriving DecidableEq

def isAsciiWordChar (c : Char) : Bool := c.isAlphanum || c == '_'

/-- Whether an assertion holds between two characters, or at an end of the text. -/
def Look.holds (before behind : Option Char) : Look → Bool
  | textStart => before.isNone
  | textStop => behind.isNone
  | lineStart => before.all (· == '\n')
  | lineStop => behind.all (· == '\n')
  | anyLineStart => before.all fun c => c == '\n' || (c == '\r' && behind != some '\n')
  | anyLineStop => behind.all fun c => c == '\r' || (c == '\n' && before != some '\r')
  | word edge => edge.holds (before.any Text.isWordChar) (behind.any Text.isWordChar)
  | asciiWord edge => edge.holds (before.any isAsciiWordChar) (behind.any isAsciiWordChar)

inductive Regex where
  | empty
  /-- A single character of a class. -/
  | anyOf (cls : CharClass)
  | look (l : Look)
  | append (first second : Regex)
  | either (first second : Regex)
  /-- Repetitions of `body`, as many as one likes if there is no greatest count. -/
  | repeated (body : Regex) (least : Nat) (most : Option Nat)
  /-- The part of a match that belongs to a group. -/
  | captured (body : Regex)
deriving DecidableEq

namespace Regex

/-- One after the other. What matches nothing but the empty text everywhere is left out. -/
def concat : List Regex → Regex
  | [] => empty
  | [r] => r
  | empty :: rest => concat rest
  | r :: rest => append r (concat rest)

/-- Nothing at all matches an empty choice. -/
def oneOf : List Regex → Regex
  | [] => anyOf []
  | [r] => r
  | r :: rest => either r (oneOf rest)

/-- Whether nothing but the empty text can match. -/
def isEmptyOnly : Regex → Bool
  | empty | look _ => true
  | anyOf _ => false
  | append first second | either first second => first.isEmptyOnly && second.isEmptyOnly
  | repeated body _ most => body.isEmptyOnly || most == some 0
  | captured body => body.isEmptyOnly

/-- Repetitions, of what matches the empty text only at most one. -/
def repetition (body : Regex) (least : Nat) (most : Option Nat) : Regex :=
  if body.isEmptyOnly then
    let most := most.map (min 1) |>.getD 1
    if most = 0 then empty else repeated body (min least 1) (some most)
  else if most = some 0 then empty
  else repeated body least most

end Regex

end SourceGrade
