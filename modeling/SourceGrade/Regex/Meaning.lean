import SourceGrade.Regex.Flaw
import SourceGrade.Regex.Tree
import SourceGrade.Unicode.CaseFolding

/-!
# The meaning of patterns

What a pattern stands for, given the flags that hold at each place. Without the Unicode flag a class
is one of bytes, and must keep to ASCII, so that no match ends inside a character.
-/

namespace SourceGrade.Regex

structure Flags where
  ignoreCase : Bool := false
  multiLine : Bool := false
  dotAll : Bool := false
  unicode : Bool := true
  crlf : Bool := false

/-- The flags behind a change. -/
def Flags.change (f : Flags) (changes : FlagChanges) : Flags where
  ignoreCase := (changes.lookup .ignoreCase).getD f.ignoreCase
  multiLine := (changes.lookup .multiLine).getD f.multiLine
  dotAll := (changes.lookup .dotAll).getD f.dotAll
  unicode := (changes.lookup .unicode).getD f.unicode
  crlf := (changes.lookup .crlf).getD f.crlf

def flawAt (span : Span) (cause : Cause) : Except Flaw α := .error { cause, span }

/-! ## Classes -/

/-- The ASCII characters of a named class. -/
def Posix.chars : Posix → CharClass
  | alnum => [(0x30, 0x39), (0x41, 0x5A), (0x61, 0x7A)]
  | alpha => [(0x41, 0x5A), (0x61, 0x7A)]
  | ascii => [(0x00, 0x7F)]
  | blank => [(0x09, 0x09), (0x20, 0x20)]
  | cntrl => [(0x00, 0x1F), (0x7F, 0x7F)]
  | digit => [(0x30, 0x39)]
  | graph => [(0x21, 0x7E)]
  | lower => [(0x61, 0x7A)]
  | print => [(0x20, 0x7E)]
  | punct => [(0x21, 0x2F), (0x3A, 0x40), (0x5B, 0x60), (0x7B, 0x7E)]
  | space => [(0x09, 0x0D), (0x20, 0x20)]
  | upper => [(0x41, 0x5A)]
  | word => [(0x30, 0x39), (0x41, 0x5A), (0x5F, 0x5F), (0x61, 0x7A)]
  | xdigit => [(0x30, 0x39), (0x41, 0x46), (0x61, 0x66)]

def Shorthand.chars (unicode : Bool) : Shorthand → CharClass
  | digit => if unicode then Unicode.decimalNumber else Posix.chars .digit
  | space => if unicode then Text.blanks else Posix.chars .space
  | word => if unicode then Text.wordChars else Posix.chars .word

def SetOperator.apply : SetOperator → CharClass → CharClass → CharClass
  | intersection, a, b => a.intersection b
  | difference, a, b => a.difference b
  | symmetricDifference, a, b => a.symmetricDifference b

namespace Flags

/-- The class with the other cases of its characters, where case does not matter. -/
def fold (f : Flags) (cls : CharClass) : CharClass :=
  if !f.ignoreCase then cls
  else if f.unicode then cls.ignoringCase
  else cls.ignoringAsciiCase

/-- The class or all that is not in it. -/
def negate (f : Flags) (negated : Bool) (cls : CharClass) : CharClass :=
  if !negated then cls
  else if f.unicode then cls.complement
  else cls.complement 0xFF

/-- A class of bytes has to be one of ASCII characters. -/
def checkBytes (f : Flags) (span : Span) (cls : CharClass) : Except Flaw CharClass :=
  if f.unicode || cls.isAscii then .ok cls else flawAt span .partOfCharacter

def close (f : Flags) (span : Span) (negated : Bool) (cls : CharClass) : Except Flaw CharClass :=
  f.checkBytes span (f.negate negated (f.fold cls))

end Flags

def NamedClass.chars (f : Flags) (c : NamedClass) : Except Flaw CharClass :=
  match c.name with
  | .shorthand kind => f.checkBytes c.span (f.negate c.negated (kind.chars f.unicode))
  | .posix kind => f.close c.span c.negated kind.chars
  | .property query =>
    if !f.unicode then flawAt c.span .unicodeNeeded
    else
      match query.answer with
      | .ok cls => .ok (f.negate c.negated (f.fold cls))
      | .error .unknownName => flawAt c.span .propertyUnknown
      | .error .unknownValue => flawAt c.span .propertyValueUnknown

/-- Whether a literal is a byte that is no character. -/
def Literal.isLoneByte (f : Flags) (l : Literal) : Bool :=
  !f.unicode && l.isByte && 0x80 ≤ l.char.toNat

/-- The character of a literal in a class. -/
def Literal.member (f : Flags) (l : Literal) : Except Flaw Char :=
  if l.isLoneByte f then flawAt l.span .partOfCharacter
  else if !f.unicode && 0x80 ≤ l.char.toNat then flawAt l.span .unicodeNeeded
  else .ok l.char

mutual

/-- The characters of what stands between brackets. -/
def Bracket.chars (f : Flags) : Bracket → Except Flaw CharClass
  | empty _ => .ok []
  | literal l => CharClass.single <$> l.member f
  | range low high => do
    let low ← low.member f
    let high ← high.member f
    return [(low.toNat, high.toNat)]
  | named c => c.chars f
  | nested span negated inside => do f.close span negated (← inside.chars f)
  | union _ members => Bracket.allChars f members
  | combined operator left right => do
    let left ← left.chars f
    let right ← right.chars f
    return operator.apply (f.fold left) (f.fold right)

def Bracket.allChars (f : Flags) : List Bracket → Except Flaw CharClass
  | [] => .ok []
  | member :: rest => do
    let first ← member.chars f
    return first ++ (← Bracket.allChars f rest)

end

/-! ## Patterns -/

/-- Any character but the ends of lines, or any character at all. -/
def dotClass (f : Flags) : CharClass :=
  if f.dotAll then CharClass.complement []
  else if f.crlf then CharClass.complement [(0x0A, 0x0A), (0x0D, 0x0D)]
  else CharClass.complement [(0x0A, 0x0A)]

def Assertion.look (f : Flags) : Assertion → Look
  | lineStart => if !f.multiLine then .textStart else if f.crlf then .anyLineStart else .lineStart
  | lineStop => if !f.multiLine then .textStop else if f.crlf then .anyLineStop else .lineStop
  | textStart => .textStart
  | textStop => .textStop
  | word edge => if f.unicode then .word edge else .asciiWord edge

/-- What is found with the flags that hold, and may change them for what follows. -/
abbrev Meaning := StateT Flags (Except Flaw)

mutual

/-- The meaning of a tree. A group ends the changes of flags inside it. -/
def Tree.meaning : Tree → Meaning Regex
  | empty _ => return .empty
  | flags _ changes => do
    modify (·.change changes)
    return .empty
  | literal l => do
    let f ← get
    if l.isLoneByte f then throw { cause := .partOfCharacter, span := l.span }
    return .anyOf (f.fold (.single l.char))
  | dot span => do
    let f ← get
    if !f.unicode then throw { cause := .partOfCharacter, span }
    return .anyOf (dotClass f)
  | assertion _ a => return .look (a.look (← get))
  | named c => do return .anyOf (← c.chars (← get))
  | bracketed b => do return .anyOf (CharClass.ofRanges (← b.chars (← get)))
  | repetition _ body least most => do return .repetition (← body.meaning) least most
  | group _ changes body => do
    let outside ← get
    modify (·.change (changes.getD []))
    let body ← body.meaning
    set outside
    return if changes.isNone then .captured body else body
  | alternation _ trees => do return .oneOf (← Tree.meanings trees)
  | concatenation _ trees => do return .concat (← Tree.meanings trees)

def Tree.meanings : List Tree → Meaning (List Regex)
  | [] => return []
  | tree :: rest => do
    let first ← tree.meaning
    return first :: (← Tree.meanings rest)

end

end SourceGrade.Regex
