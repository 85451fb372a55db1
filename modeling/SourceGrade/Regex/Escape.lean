import SourceGrade.Regex.Cursor
import SourceGrade.Regex.Tree

/-!
# Escapes

What a backslash begins: a character that stands for itself or for a control character, the number
of a character, a class, or an assertion.
-/

namespace SourceGrade.Regex

/-- A part of a pattern that holds no others. -/
inductive Atom where
  | literal (l : Literal)
  | named (c : NamedClass)
  | dot (span : Span)
  | assertion (span : Span) (a : Assertion)

namespace Atom

def span : Atom → Span
  | literal l => l.span
  | named c => c.span
  | dot span | assertion span _ => span

def tree : Atom → Tree
  | literal l => .literal l
  | named c => .named c
  | dot span => .dot span
  | assertion span a => .assertion span a

end Atom

/-- The characters with a meaning of their own. -/
def metaCharacters : Text := "\\.+*?()|[]\x7b\x7d^$#&-~"

/-- Whether a backslash in front of a character takes away its meaning: not from letters, digits and
angles. -/
def isEscapable (c : Char) : Bool :=
  c ∈ metaCharacters || (c.toNat < 0x80 && !c.isAlphanum && c != '<' && c != '>')

/-- The control characters with a letter. -/
def controlEscapes : List (Char × Char) :=
  [('a', '\x07'), ('f', '\x0c'), ('t', '\t'), ('n', '\n'), ('r', '\r'), ('v', '\x0b')]

/-- The assertions with a sign, those on word edges with a name between braces not among them. -/
def assertionEscapes : List (Char × Assertion) :=
  [('A', .textStart), ('z', .textStop), ('b', .word .any), ('B', .word .none), ('<', .word .start),
    ('>', .word .stop)]

def shorthandEscapes : List (Char × ClassName) :=
  [('d', .shorthand .digit), ('s', .shorthand .space), ('w', .shorthand .word)]

def edgeNames : List (Text × WordEdge) :=
  [("start", .start), ("end", .stop), ("start-half", .startHalf), ("end-half", .stopHalf)]

def hexValue? (c : Char) : Option Nat :=
  if c.isDigit then some (c.toNat - '0'.toNat)
  else if 'a' ≤ c && c ≤ 'f' then some (c.toNat - 'a'.toNat + 10)
  else if 'A' ≤ c && c ≤ 'F' then some (c.toNat - 'A'.toNat + 10)
  else none

def charOfHex? (digits : List Nat) : Option Char :=
  let n := digits.foldl (fun n d => n * 16 + d) 0
  if n.isValidChar then some (Char.ofNat n) else none

namespace Parser

/-- Reads the hexadecimal digit at the cursor. -/
def hexDigit : Parser Nat := do
  match (← peek?).bind hexValue? with
  | some d => return d
  | none => failNext .hexDigit

/-- Reads so many further digits. -/
def moreHexDigits : (count : Nat) → Parser (List Nat)
  | 0 => return []
  | count + 1 => do
    if (← advanceSpaced?).isNone then failHere .escapeUnfinished
    let d ← hexDigit
    return d :: (← moreHexDigits count)

/-- The literal of a number, which the cursor stands behind. -/
def numbered (start first : Position) (last : Position) (digits : List Nat) (isByte : Bool) :
    Parser Atom := do
  match charOfHex? digits with
  | some char => return .literal { span := ← spanFrom start, char, isByte }
  | none => fail ⟨first, last⟩ .hexNoCharacter

/-- Reads a number of so many digits. -/
def hexDigits (start : Position) (count : Nat) : Parser Atom := do
  let first ← here
  let d ← hexDigit
  let digits := d :: (← moreHexDigits (count - 1))
  let _ ← advanceSpaced?
  numbered start first (← here) digits (count = 2)

/-- Reads the digits up to a closing brace, which it does not pass. -/
def bracedDigits : (fuel : Nat) → Parser (List Nat)
  | 0 => return []
  | fuel + 1 => do
    match ← advanceSpaced? with
    | none | some '\x7d' => return []
    | some _ => do
      let d ← hexDigit
      return d :: (← bracedDigits fuel)

/-- Reads a number between braces. -/
def bracedHex (start : Position) : Parser Atom := do
  let brace ← here
  let first := (← nextSpan).stop
  let digits ← bracedDigits (← get).rest.length
  if ← atEnd then failFrom brace .escapeUnfinished
  let last ← here
  let _ ← advanceSpaced?
  if digits.isEmpty then failFrom brace .hexEmpty
  numbered start first last digits false

/-- Reads the number of a character behind the letter that tells how many digits it has. -/
def hex (start : Position) (count : Nat) : Parser Atom := do
  match ← advanceSpaced? with
  | none => failHere .escapeUnfinished
  | some '\x7b' => bracedHex start
  | some _ => hexDigits start count

/-- Reads the characters up to a closing brace, which it does not pass. -/
def bracedText : (fuel : Nat) → Parser Text
  | 0 => return []
  | fuel + 1 => do
    match ← advanceSpaced? with
    | none | some '\x7d' => return []
    | some c => return c :: (← bracedText fuel)

/-- The text in front of a separator and the text behind it. -/
def splitAt? (separator : Text) : Text → Option (Text × Text)
  | [] => none
  | c :: rest =>
    if separator.isPrefixOf (c :: rest) then some ([], (c :: rest).drop separator.length)
    else (splitAt? separator rest).map fun (before, behind) => (c :: before, behind)

/-- A property of characters, by the text between the braces. -/
def property (span : Span) (negated : Bool) (text : Text) : NamedClass :=
  match splitAt? "!=" text with
  | some (name, value) => ⟨span, !negated, .property (.valued name value)⟩
  | none =>
    match (splitAt? ":" text).or (splitAt? "=" text) with
    | some (name, value) => ⟨span, negated, .property (.valued name value)⟩
    | none => ⟨span, negated, .property (.named text)⟩

/-- Reads a property behind its letter. -/
def propertyClass (start : Position) (negated : Bool) : Parser Atom := do
  match ← advanceSpaced? with
  | none => failHere .escapeUnfinished
  | some '\x7b' => do
    let text ← bracedText (← get).rest.length
    if ← atEnd then failHere .escapeUnfinished
    let _ ← advance?
    return .named (property (← spanFrom start) negated text)
  | some '\\' => failNext .propertyName
  | some c => do
    let _ ← advanceSpaced?
    return .named ⟨← spanFrom start, negated, .property (.named [c])⟩

def isEdgeNameChar (c : Char) : Bool := c.isAlpha || c == '-'

/-- Reads the name of a word edge. -/
def edgeName : (fuel : Nat) → Parser Text
  | 0 => return []
  | fuel + 1 => do
    match ← peek? with
    | some c =>
      if isEdgeNameChar c then
        let _ ← advanceSpaced?
        return c :: (← edgeName fuel)
      else return []
    | none => return []

/-- Reads the kind of a word edge between braces. Braces that do not begin like it are left alone:
they count repetitions. -/
def bracedEdge? (start : Position) : Parser (Option WordEdge) := do
  let before ← get
  let brace ← here
  match ← advanceSpaced? with
  | none => failFrom start .braceUnclosed
  | some c => do
    if !isEdgeNameChar c then
      set before
      return none
    let first ← here
    let name ← edgeName (← get).rest.length
    if (← peek?) != some '\x7d' then failFrom brace .wordEdgeUnclosed
    let nameSpan ← spanFrom first
    let _ ← advance?
    match edgeNames.lookup name with
    | some edge => return some edge
    | none => fail nameSpan .wordEdgeUnknown

/-- Reads an assertion behind its letter. -/
def assertion (start : Position) (a : Assertion) : Parser Atom := do
  if a = .word .any ∧ (← peek?) = some '\x7b' then
    match ← bracedEdge? start with
    | some edge => return .assertion (← spanFrom start) (.word edge)
    | none => return .assertion (← spanFrom start) a
  else return .assertion (← spanFrom start) a

/-- Reads what stands behind a backslash and is a single character. -/
def simpleEscape (start : Position) (c : Char) : Parser Atom := do
  let _ ← advance?
  let span ← spanFrom start
  if isEscapable c then return .literal { span, char := c }
  match controlEscapes.lookup c, assertionEscapes.lookup c with
  | some char, _ => return .literal { span, char }
  | none, some a => assertion start a
  | none, none => fail span .escapeUnknown

/-- Reads a shorthand class. -/
def shorthand (start : Position) (name : ClassName) (negated : Bool) : Parser Atom := do
  let _ ← advance?
  return .named ⟨← spanFrom start, negated, name⟩

/-- Reads an escape, the cursor being in front of the backslash. -/
def escape : Parser Atom := do
  let start ← here
  match ← advance? with
  | none => failFrom start .escapeUnfinished
  | some c =>
    if c.isDigit then fail ⟨start, (← nextSpan).stop⟩ .backreference
    else if c = 'x' then hex start 2
    else if c = 'u' then hex start 4
    else if c = 'U' then hex start 8
    else if c = 'p' ∨ c = 'P' then propertyClass start (c = 'P')
    else
      match shorthandEscapes.lookup c.toLower with
      | some name => shorthand start name c.isUpper
      | none => simpleEscape start c

end Parser

end SourceGrade.Regex
