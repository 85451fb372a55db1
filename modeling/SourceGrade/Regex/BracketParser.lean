import SourceGrade.Regex.Escape

/-!
# Reading bracketed classes

Between brackets stand characters, ranges, named classes and further brackets. Operators on sets
take all that stands to the left of them.
-/

namespace SourceGrade.Regex

def posixNames : List (Text × Posix) :=
  [("alnum", .alnum), ("alpha", .alpha), ("ascii", .ascii), ("blank", .blank), ("cntrl", .cntrl),
    ("digit", .digit), ("graph", .graph), ("lower", .lower), ("print", .print), ("punct", .punct),
    ("space", .space), ("upper", .upper), ("word", .word), ("xdigit", .xdigit)]

def setOperators : List (Text × SetOperator) :=
  [("&&", .intersection), ("--", .difference), ("~~", .symmetricDifference)]

/-- The beginning of a bracketed class. -/
structure Opening where
  span : Span
  negated : Bool
  /-- The place of the first member. -/
  first : Position
  members : List Bracket

/-- What has been read of a bracketed class: the operand to the left of the last operator, and the
members behind it, the last one first. -/
structure Members where
  left : Option (Bracket × SetOperator) := none
  first : Position
  members : List Bracket

namespace Members

def push (m : Members) (member : Bracket) : Members := { m with members := member :: m.members }

/-- The set of all that has been read. -/
def bracket (m : Members) : Bracket :=
  let right := Bracket.ofMembers m.first m.members.reverse
  match m.left with
  | none => right
  | some (left, operator) => .combined operator left right

end Members

namespace Parser

/-- Reads the dashes at the beginning of a class, the last one first. -/
def leadingDashes (start : Position) (done : List Bracket) : (fuel : Nat) → Parser (List Bracket)
  | 0 => return done
  | fuel + 1 => do
    if (← peek?) = some '-' then
      let dash := Bracket.literal { span := ← nextSpan, char := '-' }
      if (← advanceSpaced?).isNone then fail (.empty start) .bracketUnclosed
      leadingDashes start (dash :: done) fuel
    else return done

/-- Reads the beginning of a class. Dashes stand for themselves there, and so does a closing bracket
in their place. -/
def opening : Parser Opening := do
  let start ← here
  let mut next ← advanceSpaced?
  if next.isNone then failFrom start .bracketUnclosed
  let negated := next = some '^'
  if negated then
    next ← advanceSpaced?
    if next.isNone then failFrom start .bracketUnclosed
  let first ← here
  let mut members ← leadingDashes start [] (← get).rest.length
  if members.isEmpty ∧ next = some ']' then
    members := [.literal { span := ← nextSpan, char := ']' }]
    if (← advanceSpaced?).isNone then failFrom start .bracketUnclosed
  return { span := ← spanFrom start, negated, first, members }

/-- Reads a named class between brackets and colons, if there is one. -/
def posix? : Parser (Option NamedClass) := do
  let c ← get
  match c.rest with
  | '[' :: ':' :: text =>
    let negated := text.head? = some '^'
    let name := (if negated then text.drop 1 else text).takeWhile (· ≠ ':')
    match posixNames.lookup name with
    | some kind =>
      let start ← here
      let length := 2 + (if negated then 1 else 0) + name.length
      if [':', ']'].isPrefixOf (c.rest.drop length) then
        set (c.advanceBy (length + 2))
        return some ⟨← spanFrom start, negated, .posix kind⟩
      else return none
    | none => return none
  | _ => return none

/-- Reads a character or an escape. -/
def classAtom : Parser Atom := do
  match ← peek? with
  | some '\\' => escape
  | some char => do
    let span ← nextSpan
    let _ ← advance?
    return .literal { span, char }
  | none => failHere .escapeUnfinished

/-- A member of a class. Assertions are none. -/
def member : Atom → Parser Bracket
  | .literal l => return .literal l
  | .named c => return .named c
  | atom => fail atom.span .bracketEscape

/-- An end of a range. -/
def rangeEnd : Atom → Parser Literal
  | .literal l => return l
  | atom => fail atom.span .bracketRangeEnd

/-- Reads a member or a range. -/
def classRange (opened : Span) : Parser Bracket := do
  let low ← classAtom
  passSpace
  match ← peek? with
  | none => fail opened .bracketUnclosed
  | some '-' => do
    let behind := (← get).peekBehindSpace
    if behind = some ']' ∨ behind = some '-' then member low
    else
      if (← advanceSpaced?).isNone then fail opened .bracketUnclosed
      let high ← classAtom
      let span := low.span.upTo high.span
      let low ← rangeEnd low
      let high ← rangeEnd high
      if high.char < low.char then fail span .bracketRangeOrder
      return .range low high
  | some _ => member low

/-- Reads an operator on sets, if there is one. -/
def setOperator? : Parser (Option SetOperator) := do
  setOperators.findSomeM? fun (word, operator) => do
    return if ← accept word then some operator else none

mutual

/-- Reads a bracketed class, the cursor being in front of its bracket. -/
def bracketed : (fuel : Nat) → Parser Bracket
  | 0 => failHere .bracketUnclosed
  | fuel + 1 => do
    let opened ← opening
    let inside ← classMembers opened.span { first := opened.first, members := opened.members } fuel
    return .nested (← spanFrom opened.span.start) opened.negated inside

/-- Reads up to the closing bracket and behind it. -/
def classMembers (opened : Span) (m : Members) : (fuel : Nat) → Parser Bracket
  | 0 => fail opened .bracketUnclosed
  | fuel + 1 => do
    passSpace
    match ← peek? with
    | none => fail opened .bracketUnclosed
    | some '[' => do
      match ← posix? with
      | some c => classMembers opened (m.push (.named c)) fuel
      | none => classMembers opened (m.push (← bracketed fuel)) fuel
    | some ']' => do
      let _ ← advance?
      return m.bracket
    | some _ => do
      match ← setOperator? with
      | some operator =>
        classMembers opened
          { left := some (m.bracket, operator), first := ← here, members := [] } fuel
      | none => classMembers opened (m.push (← classRange opened)) fuel

end

end Parser

end SourceGrade.Regex
