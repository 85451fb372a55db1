import SourceGrade.Regex.Escape

/-!
# Reading repetitions

An operator behind a part of a pattern tells how often it is repeated. A question mark behind the
operator asks for as few times as possible.
-/

namespace SourceGrade.Regex

/-- How often something is repeated; without bound if there is no greatest count. -/
structure Count where
  least : Nat
  most : Option Nat

def Count.exactly (n : Nat) : Count := ⟨n, some n⟩

namespace Parser

/-- The part in front of an operator. Changes of flags cannot be repeated. -/
def repeated (parts : List Tree) : Parser (Tree × List Tree) := do
  match parts with
  | [] | .empty _ :: _ | .flags .. :: _ => failHere .nothingToRepeat
  | part :: parts => return (part, parts)

/-- Passes a question mark behind an operator. -/
def passLazy (next : Option Char) : Parser Unit := do
  if next = some '?' then
    let _ ← advance?

/-- The part in front of the cursor, repeated. -/
def repetition (part : Tree) (count : Count) : Parser Tree := do
  return .repetition (← spanFrom part.span.start) part count.least count.most

/-- Reads an operator of one character. -/
def signedRepetition (parts : List Tree) (count : Count) : Parser (List Tree) := do
  let (part, parts) ← repeated parts
  passLazy (← advance?)
  return (← repetition part count) :: parts

/-- Passes blanks, with `advance` from one character to the next. -/
def passBlanks (advance : Parser Unit) : (fuel : Nat) → Parser Unit
  | 0 => return
  | fuel + 1 => do
    if (← peek?).any Text.isBlank then
      advance
      passBlanks advance fuel

/-- Reads decimal digits. -/
def decimalDigits : (fuel : Nat) → Parser Text
  | 0 => return []
  | fuel + 1 => do
    match ← peek? with
    | some c =>
      if c.isDigit then
        let _ ← advanceSpaced?
        return c :: (← decimalDigits fuel)
      else return []
    | none => return []

/-- Reads a count between blanks. A flaw of it is kept, since what follows may be a worse one. -/
def decimal : Parser (Except Flaw Nat) := do
  passBlanks (modify Cursor.advance) (← get).rest.length
  let start ← here
  let digits ← decimalDigits (← get).rest.length
  let span ← spanFrom start
  passBlanks (modify fun c => c.advance.passSpace) (← get).rest.length
  if digits.isEmpty then return .error { cause := .countEmpty, span }
  let n := Nat.ofDigitChars 10 digits 0
  return if n < UInt32.size then .ok n else .error { cause := .countTooLarge, span }

/-- Reads the counts between braces, up to the closing one. -/
def counts (start : Position) : Parser Count := do
  if (← advanceSpaced?).isNone then failFrom start .countUnclosed
  let least ← decimal
  match ← peek? with
  | none => failFrom start .countUnclosed
  | some ',' =>
    match ← advanceSpaced? with
    | none => failFrom start .countUnclosed
    | some '\x7d' => return ⟨← liftExcept least, none⟩
    | some _ => do
      let least ← liftExcept least
      return ⟨least, some (← liftExcept (← decimal))⟩
  | some _ => return .exactly (← liftExcept least)
where
  liftExcept (result : Except Flaw Nat) : Parser Nat := liftM result

/-- Reads an operator between braces. -/
def countedRepetition (parts : List Tree) : Parser (List Tree) := do
  let start ← here
  let (part, parts) ← repeated parts
  let count ← counts start
  if (← peek?) != some '\x7d' then failFrom start .countUnclosed
  passLazy (← advanceSpaced?)
  if count.most.any (· < count.least) then failFrom start .countOrder
  return (← repetition part count) :: parts

end Parser

end SourceGrade.Regex
