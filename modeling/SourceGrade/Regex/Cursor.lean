import SourceGrade.Regex.Flaw
import SourceGrade.Text.Blank

/-!
# Reading patterns

A parser moves a cursor over a pattern. Where blanks may be written for clarity, they and comments
are passed over between the parts of a pattern.
-/

namespace SourceGrade.Regex

structure Cursor where
  position : Position := {}
  /-- What is still to be read. -/
  rest : Text
  /-- Whether blanks and comments are passed over. -/
  spaced : Bool := false
  /-- The names of groups so far. -/
  names : List (Text × Span) := []

namespace Cursor

/-- The cursor behind the next character. -/
def advance (c : Cursor) : Cursor :=
  match c.rest with
  | [] => c
  | char :: rest => { c with position := c.position.after char, rest }

def advanceBy (c : Cursor) : Nat → Cursor
  | 0 => c
  | n + 1 => c.advance.advanceBy n

/-- The place and the text behind blanks and comments. A comment reaches to the end of its line. -/
def behindSpace (position : Position) (inComment : Bool) : Text → Position × Text
  | [] => (position, [])
  | char :: rest =>
    let next := position.after char
    if inComment then behindSpace next (char ≠ '\n') rest
    else if Text.isBlank char then behindSpace next false rest
    else if char = '#' then behindSpace next true rest
    else (position, char :: rest)

def passSpace (c : Cursor) : Cursor :=
  if c.spaced then
    let (position, rest) := behindSpace c.position false c.rest
    { c with position, rest }
  else c

/-- The character behind the next one, where that one is skipped together with the blanks behind it
and a mark of a comment among them. At the end of the pattern it is the very next character. -/
def peekBehindSpace (c : Cursor) : Option Char :=
  let rest := c.rest.drop 1
  if c.spaced then
    let passed := rest.dropWhile Text.isBlank
    let passed := if passed.head? = some '#' then (passed.drop 1).dropWhile Text.isBlank else passed
    if passed.isEmpty then rest.head? else passed.head?
  else rest.head?

end Cursor

abbrev Parser := StateT Cursor (Except Flaw)

namespace Parser

def here : Parser Position := return (← get).position

/-- The next character. -/
def peek? : Parser (Option Char) := return (← get).rest.head?

def atEnd : Parser Bool := return (← get).rest.isEmpty

/-- The span of the next character. -/
def nextSpan : Parser Span := do
  let c ← get
  return ⟨c.position, c.advance.position⟩

/-- The span from a place up to the cursor. -/
def spanFrom (start : Position) : Parser Span := return ⟨start, ← here⟩

def passSpace : Parser Unit := modify Cursor.passSpace

/-- Moves behind the next character, and answers with the one that follows. -/
def advance? : Parser (Option Char) := do
  modify Cursor.advance
  peek?

/-- Moves behind the next character and what may be passed over behind it, and answers with the
character that follows. -/
def advanceSpaced? : Parser (Option Char) := do
  modify fun c => c.advance.passSpace
  peek?

/-- Moves behind a word if the pattern goes on with it. -/
def accept (word : Text) : Parser Bool := do
  let c ← get
  if word.isPrefixOf c.rest then
    set (c.advanceBy word.length)
    return true
  else return false

def fail (span : Span) (cause : Cause) : Parser α := throw { cause, span }

/-- The flaw of what begins at `start` and reaches up to the cursor. -/
def failFrom (start : Position) (cause : Cause) : Parser α := do
  fail (← spanFrom start) cause

/-- The flaw of the place where the cursor is. -/
def failHere (cause : Cause) : Parser α := do
  fail (.empty (← here)) cause

/-- The flaw of the next character. -/
def failNext (cause : Cause) : Parser α := do
  fail (← nextSpan) cause

end Parser

end SourceGrade.Regex
