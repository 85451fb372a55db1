import SourceGrade.Binary64.Arithmetic
import SourceGrade.Text.Blank
import SourceGrade.Text.Lines
import SourceGrade.Text.Pattern

/-!
# Signals

What a text shows without being parsed: counts of lines, comments, declarations, loops and risky
calls, the mean length of a line, and a few markers.
-/

namespace SourceGrade

structure Signals where
  lines : Nat
  /-- Mean length of the lines in characters, blanks at their ends not counted. -/
  averageLength : Binary64
  commentLines : Nat
  functions : Nat
  loops : Nat
  dangerousCalls : Nat
  /-- The risky calls themselves, by position. -/
  dangerousMatches : List Text
  hasTests : Bool
  hasErrorHandling : Bool
  trailingNewline : Bool
deriving DecidableEq

namespace Signals

def commentMarkers : List Text := ["#", "//", "/*", "*"]

def errorHandlingMarkers : List Text := ["try", "catch", "except"]

def testMarkers : List Text := ["unittest", "pytest", "JUnit", "XCTest", "@Test", "describe(", "it("]

def declaration : Pattern where
  literals := ["def ", "func ", "function ", "void ", "class "]
  atBoundary := true

def loop : Pattern where
  literals := ["for ", "while "]
  atBoundary := true

def dangerousCall : Pattern where
  literals := ["eval", "exec", "system(", "popen", "md5", "sha1", "password"]

/-- Whether the first characters of a line that are not blank are a comment marker. -/
def isComment (line : Text) : Bool :=
  commentMarkers.any fun marker => marker.isPrefixOf line.trimStart

/-- The length of all lines together, blanks at their ends not counted. -/
def totalLength (lines : List Text) : Nat := (lines.map fun line => line.trimEnd.length).foldr (· + ·) 0

/-- The mean of no lines is zero. -/
def meanLength (total lines : Nat) : Binary64 := .div (.ofNat total) (.ofNat (max lines 1))

def ofText (text : Text) : Signals :=
  let lines := text.lines
  let dangerous := dangerousCall.findAll text
  { lines := lines.length
    averageLength := meanLength (totalLength lines) lines.length
    commentLines := lines.countP isComment
    functions := (declaration.findAll text).length
    loops := (loop.findAll text).length
    dangerousCalls := dangerous.length
    dangerousMatches := dangerous
    hasTests := testMarkers.any text.contains
    hasErrorHandling := errorHandlingMarkers.any text.contains
    trailingNewline := text.getLast? = some '\n' }

end Signals

end SourceGrade
