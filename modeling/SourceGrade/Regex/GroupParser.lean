import SourceGrade.Regex.Escape
import SourceGrade.Unicode.Property

/-!
# Reading groups

Behind its parenthesis a group may have a name or change flags. A change of flags that is closed at
once holds for what follows it.
-/

namespace SourceGrade.Regex

def flagLetters : List (Char × Flag) :=
  [('i', .ignoreCase), ('m', .multiLine), ('s', .dotAll), ('U', .swapGreed), ('u', .unicode),
    ('R', .crlf), ('x', .spaced)]

/-- What a parenthesis begins. -/
inductive GroupStart where
  /-- A change of flags for what follows. -/
  | flags (span : Span) (changes : FlagChanges)
  /-- A group, with its changes of flags unless it captures what it matches. -/
  | group (span : Span) (changes : Option FlagChanges)

/-- The flags read so far, with their spans, and the span of the sign that clears those behind it. -/
structure FlagList where
  flags : List (Flag × Bool × Span) := []
  negation : Option Span := none

/-- Whether a character may stand in the name of a group, at its beginning or later. -/
def isNameChar (first : Bool) (c : Char) : Bool :=
  c == '_' || Unicode.isAlphabetic c ||
    (!first && (c == '.' || c == '[' || c == ']' || Unicode.isNumeric c))

namespace Parser

def failBeside (span earlier : Span) (cause : Cause) : Parser α :=
  throw { cause, span, earlier := some earlier }

/-- Reads the flag at the cursor. -/
def flag (list : FlagList) (c : Char) : Parser FlagList := do
  let span ← nextSpan
  if c = '-' then
    match list.negation with
    | some earlier => failBeside span earlier .flagsNegatedTwice
    | none => return { list with negation := some span }
  else
    match flagLetters.lookup c with
    | none => fail span .flagUnknown
    | some flag =>
      match list.flags.lookup flag with
      | some (_, earlier) => failBeside span earlier .flagRepeated
      | none => return { list with flags := list.flags ++ [(flag, list.negation.isNone, span)] }

/-- Reads flags up to a colon or a closing parenthesis, which it does not pass. `last` is the span of
the sign in front of the cursor if it clears the flags behind it. -/
def flags (list : FlagList) (last : Option Span) : (fuel : Nat) → Parser FlagList
  | 0 => return list
  | fuel + 1 => do
    match ← peek? with
    | none => failHere .flagsUnfinished
    | some c =>
      if c = ':' ∨ c = ')' then
        match last with
        | some span => fail span .flagsNegateNothing
        | none => return list
      else do
        let span ← nextSpan
        let list ← flag list c
        let _ ← advance?
        flags list (if c = '-' then some span else none) fuel

/-- Reads the characters of a name up to its closing angle, which it does not pass. -/
def nameChars (first : Bool) : (fuel : Nat) → Parser Text
  | 0 => return []
  | fuel + 1 => do
    match ← peek? with
    | none => failHere .groupNameUnclosed
    | some c =>
      if c = '>' then return []
      else if !isNameChar first c then failNext .groupNameCharacter
      else do
        let _ ← advance?
        return c :: (← nameChars false fuel)

/-- Reads the name of a group. No two groups have the same. -/
def groupName : Parser Unit := do
  let start ← here
  let name ← nameChars true ((← get).rest.length + 1)
  let span ← spanFrom start
  let _ ← advance?
  if name.isEmpty then fail span .groupNameEmpty
  match (← get).names.lookup name with
  | some earlier => failBeside span earlier .groupNameRepeated
  | none => modify fun c => { c with names := (name, span) :: c.names }

/-- The signs behind a parenthesis that look around. -/
def lookArounds : List Text := ["?=", "?!", "?<=", "?<!"]

/-- Reads flags behind a question mark. -/
def flagGroup (opened : Span) (sign : Position) : Parser GroupStart := do
  if ← atEnd then fail opened .groupUnclosed
  let list ← flags {} none ((← get).rest.length + 1)
  let changes := list.flags.map fun (flag, value, _) => (flag, value)
  let closed := (← peek?) = some ')'
  let _ ← advance?
  if !closed then return .group opened (some changes)
  if changes.isEmpty ∧ list.negation.isNone then fail (.empty sign) .nothingToRepeat
  return .flags (← spanFrom opened.start) changes

/-- Reads the beginning of a group, the cursor being in front of its parenthesis. -/
def groupStart : Parser GroupStart := do
  let opened ← nextSpan
  let _ ← advanceSpaced?
  let sign ← here
  for word in lookArounds do
    if ← accept word then failFrom opened.start .lookAround
  if (← accept "?P<") || (← accept "?<") then
    groupName
    return .group opened none
  else if ← accept "?" then flagGroup opened sign
  else return .group opened none

end Parser

end SourceGrade.Regex
