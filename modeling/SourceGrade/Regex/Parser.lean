import SourceGrade.Regex.BracketParser
import SourceGrade.Regex.GroupParser
import SourceGrade.Regex.RepetitionParser

/-!
# Reading whole patterns

The first flaw from left to right decides. Parts that lie too deep inside others are looked for when
there is no other flaw.
-/

namespace SourceGrade.Regex

namespace Parser

/-- The part that an assertion or a dot is without its backslash. -/
def signs : List (Char × (Span → Atom)) :=
  [('.', .dot), ('^', (.assertion · .lineStart)), ('$', (.assertion · .lineStop))]

/-- Reads an escape, a sign or a character that stands for itself. -/
def atom (c : Char) : Parser Atom := do
  if c = '\\' then escape
  else
    let span ← nextSpan
    let _ ← advance?
    match signs.lookup c with
    | some sign => return sign span
    | none => return .literal { span, char := c }

def setSpaced (changes : FlagChanges) : Parser Unit :=
  modify fun c => { c with spaced := (changes.lookup .spaced).getD c.spaced }

/-- The counts of the operators of one character. -/
def signCounts : List (Char × Count) := [('?', ⟨0, some 1⟩), ('*', ⟨0, none⟩), ('+', ⟨1, none⟩)]

mutual

/-- Reads the parts of a branch, up to a bar, the closing parenthesis of the group that it is inside,
or the end. The parts read before come with the last one first. -/
def parts (inside : Option Span) (done : List Tree) : (fuel : Nat) → Parser (List Tree)
  | 0 => return done.reverse
  | fuel + 1 => do
    passSpace
    match ← peek? with
    | none =>
      match inside with
      | some opened => fail opened .groupUnclosed
      | none => return done.reverse
    | some '|' => return done.reverse
    | some ')' => if inside.isNone then failNext .groupUnopened else return done.reverse
    | some '(' => do
      match ← groupStart with
      | .flags span changes =>
        setSpaced changes
        parts inside (.flags span changes :: done) fuel
      | .group opened changes =>
        let spaced := (← get).spaced
        setSpaced (changes.getD [])
        let body ← branches (some opened) fuel
        modify fun c => { c with spaced }
        let _ ← advance?
        parts inside (.group (← spanFrom opened.start) changes body :: done) fuel
    | some '[' => do
      let length := (← get).rest.length
      parts inside (.bracketed (← bracketed (2 * length + 2)) :: done) fuel
    | some '\x7b' => do parts inside (← countedRepetition done) fuel
    | some c =>
      match signCounts.lookup c with
      | some count => do parts inside (← signedRepetition done count) fuel
      | none => do parts inside ((← atom c).tree :: done) fuel

/-- Reads branches with bars between them. -/
def branches (inside : Option Span) : (fuel : Nat) → Parser Tree
  | 0 => return .empty (.empty (← here))
  | fuel + 1 => do
    let start ← here
    let branches ← moreBranches inside fuel
    return .ofBranches (← spanFrom start) branches

/-- Reads the branches from the cursor on. -/
def moreBranches (inside : Option Span) : (fuel : Nat) → Parser (List Tree)
  | 0 => return []
  | fuel + 1 => do
    let start ← here
    let parts ← parts inside [] fuel
    let branch := Tree.ofParts (← spanFrom start) parts
    if (← peek?) = some '|' then
      let _ ← advance?
      return branch :: (← moreBranches inside fuel)
    else return [branch]

end

end Parser

/-! ## Depth -/

mutual

/-- The first part that lies too deep, if `depth` parts are around. -/
def Bracket.tooDeep? (depth : Nat) : Bracket → Option Span
  | nested span _ inside =>
    if maxDepth ≤ depth then some span else inside.tooDeep? (depth + 1)
  | union span members =>
    if maxDepth ≤ depth then some span else Bracket.anyTooDeep? (depth + 1) members
  | combined operator left right =>
    if maxDepth ≤ depth then some (combined operator left right).span
    else (left.tooDeep? (depth + 1)).or (right.tooDeep? (depth + 1))
  | _ => none

def Bracket.anyTooDeep? (depth : Nat) : List Bracket → Option Span
  | [] => none
  | member :: rest => (member.tooDeep? depth).or (Bracket.anyTooDeep? depth rest)

end

mutual

/-- The first part that lies too deep, if `depth` parts are around. -/
def Tree.tooDeep? (depth : Nat) : Tree → Option Span
  | bracketed b => b.tooDeep? depth
  | repetition span body _ _ | group span _ body =>
    if maxDepth ≤ depth then some span else body.tooDeep? (depth + 1)
  | alternation span trees | concatenation span trees =>
    if maxDepth ≤ depth then some span else Tree.anyTooDeep? (depth + 1) trees
  | _ => none

def Tree.anyTooDeep? (depth : Nat) : List Tree → Option Span
  | [] => none
  | tree :: rest => (tree.tooDeep? depth).or (Tree.anyTooDeep? depth rest)

end

/-- The tree of a pattern. -/
def Tree.ofText (pattern : Text) : Except Flaw Tree := do
  let (tree, _) ← (Parser.branches none (3 * pattern.length + 3)).run { rest := pattern }
  match tree.tooDeep? 0 with
  | some span => .error { cause := .tooDeep, span }
  | none => return tree

end SourceGrade.Regex
