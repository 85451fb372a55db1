import SourceGrade.Regex.Position

/-!
# Flaws of patterns

Why a text is no pattern, and how it is told: the pattern with marks under the place that is wrong,
and the reason in words.
-/

namespace SourceGrade.Regex

/-- How deep the parts of a pattern may lie inside each other. -/
def maxDepth : Nat := 250

inductive Cause where
  | bracketEscape
  | bracketRangeOrder
  | bracketRangeEnd
  | bracketUnclosed
  | hexEmpty
  | hexNoCharacter
  | hexDigit
  | escapeUnfinished
  | escapeUnknown
  | flagsNegateNothing
  | flagRepeated
  | flagsNegatedTwice
  | flagsUnfinished
  | flagUnknown
  | groupNameRepeated
  | groupNameEmpty
  | groupNameCharacter
  | groupNameUnclosed
  | groupUnclosed
  | groupUnopened
  | tooDeep
  | countOrder
  | countEmpty
  | countTooLarge
  | countUnclosed
  | nothingToRepeat
  | wordEdgeUnclosed
  | wordEdgeUnknown
  | braceUnclosed
  | propertyName
  | backreference
  | lookAround
  | unicodeNeeded
  | partOfCharacter
  | propertyUnknown
  | propertyValueUnknown
deriving DecidableEq

def Cause.message : Cause → Text
  | bracketEscape => "invalid escape sequence found in character class"
  | bracketRangeOrder => "invalid character class range, the start must be <= the end"
  | bracketRangeEnd => "invalid range boundary, must be a literal"
  | bracketUnclosed => "unclosed character class"
  | hexEmpty => "hexadecimal literal empty"
  | hexNoCharacter => "hexadecimal literal is not a Unicode scalar value"
  | hexDigit => "invalid hexadecimal digit"
  | escapeUnfinished => "incomplete escape sequence, reached end of pattern prematurely"
  | escapeUnknown => "unrecognized escape sequence"
  | flagsNegateNothing => "dangling flag negation operator"
  | flagRepeated => "duplicate flag"
  | flagsNegatedTwice => "flag negation operator repeated"
  | flagsUnfinished => "expected flag but got end of regex"
  | flagUnknown => "unrecognized flag"
  | groupNameRepeated => "duplicate capture group name"
  | groupNameEmpty => "empty capture group name"
  | groupNameCharacter => "invalid capture group character"
  | groupNameUnclosed => "unclosed capture group name"
  | groupUnclosed => "unclosed group"
  | groupUnopened => "unopened group"
  | tooDeep =>
    "exceed the maximum number of nested parentheses/brackets (" ++ Text.ofNat maxDepth ++ ")"
  | countOrder => "invalid repetition count range, the start must be <= the end"
  | countEmpty => "repetition quantifier expects a valid decimal"
  | countTooLarge => "decimal literal invalid"
  | countUnclosed => "unclosed counted repetition"
  | nothingToRepeat => "repetition operator missing expression"
  | wordEdgeUnclosed =>
    "special word boundary assertion is either unclosed or contains an invalid character"
  | wordEdgeUnknown =>
    "unrecognized special word boundary assertion, valid choices are: " ++
      "start, end, start-half or end-half"
  | braceUnclosed =>
    "found either the beginning of a special word boundary or a bounded repetition on a \\b " ++
      "with an opening brace, but no closing brace"
  | propertyName => "invalid Unicode character class"
  | backreference => "backreferences are not supported"
  | lookAround => "look-around, including look-ahead and look-behind, is not supported"
  | unicodeNeeded => "Unicode not allowed here"
  | partOfCharacter => "pattern can match invalid UTF-8"
  | propertyUnknown => "Unicode property not found"
  | propertyValueUnknown => "Unicode property value not found"

structure Flaw where
  cause : Cause
  span : Span
  /-- The earlier part of the pattern that the flawed one is at odds with. -/
  earlier : Option Span := none
deriving DecidableEq

namespace Flaw

/-- The lines of a pattern. A carriage return in front of a line feed belongs to the line end. -/
def lines (pattern : Text) : List Text :=
  let parts := pieces '\n' pattern
  let withoutReturn (line : Text) : Text :=
    if line.getLast? = some '\r' then line.dropLast else line
  parts.dropLast.map withoutReturn ++ (parts.getLast?.toList.filter (!·.isEmpty))

def spaces (n : Nat) : Text := List.replicate n ' '

/-- Marks under the columns of spans that stand in order, from a given column on. -/
def marks (column : Nat) : List Span → Text
  | [] => []
  | s :: rest =>
    let width := max 1 (s.stop.column - s.start.column)
    spaces (s.start.column - column) ++ List.replicate width '^' ++
      marks (max column s.start.column + width) rest

/-- The spans of a flaw in the order of the pattern. -/
def spans (f : Flaw) : List Span :=
  match f.earlier with
  | none => [f.span]
  | some earlier => [earlier, f.span]

/-- The lines of the pattern behind `margin n` for the line with number `n`, each followed by its
marks if there are any. -/
def annotated (f : Flaw) (margin : Nat → Text) (lines : List Text) : Text :=
  let annotate (line : Text) (index : Nat) : Text :=
    let number := index + 1
    let here := f.spans.filter fun s => s.isOneLine && s.start.line == number
    let underneath : Text :=
      if here.isEmpty then [] else spaces (margin number).length ++ marks 1 here ++ "\n"
    margin number ++ line ++ "\n" ++ underneath
  (List.zipWith annotate lines (List.range lines.length)).flatten

def divider : Text := List.replicate 79 '~' ++ ['\n']

/-- The note on a span of several lines. Its last column is the one in front of its end. -/
def lineNote (s : Span) : Text :=
  "on line " ++ Text.ofNat s.start.line ++ " (column " ++ Text.ofNat s.start.column ++
    ") through line " ++ Text.ofNat s.stop.line ++ " (column " ++
    Text.ofNat (s.stop.column - 1) ++ ")\n"

/-- Tells a flaw of a pattern. The lines of a pattern with a line feed are numbered. -/
def describe (pattern : Text) (f : Flaw) : Text :=
  let lines := lines pattern
  let body :=
    if '\n' ∈ pattern then
      let count := if pattern.getLast? = some '\n' then lines.length + 1 else lines.length
      let width := (Text.ofNat count).length
      let margin (number : Nat) : Text :=
        let digits := Text.ofNat number
        spaces (width - digits.length) ++ digits ++ ": "
      divider ++ f.annotated margin lines ++ divider ++
        (f.spans.filter (!·.isOneLine)).flatMap lineNote
    else f.annotated (fun _ => spaces 4) lines
  "regex parse error:\n" ++ body ++ "error: " ++ f.cause.message

end Flaw

end SourceGrade.Regex
