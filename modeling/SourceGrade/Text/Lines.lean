import SourceGrade.Text.Basic

/-!
# Lines

A text is cut at every universal line break. The break belongs to no line, a carriage return with
the line feed behind it is one break, and a break at the end of the text opens no further line.
-/

namespace SourceGrade.Text

def isBreak (c : Char) : Bool :=
  c == '\n' || c == '\r' || c == '\x0b' || c == '\x0c' || c == '\x1c' || c == '\x1d' ||
    c == '\x1e' || c == '\u0085' || c == '\u2028' || c == '\u2029'

/-- The lines of a text behind the characters `read`, the last one first, of an unfinished line. -/
def linesFrom (read : Text) : Text → List Text
  | [] => if read.isEmpty then [] else [read.reverse]
  | '\r' :: '\n' :: rest => read.reverse :: linesFrom [] rest
  | c :: rest => if isBreak c then read.reverse :: linesFrom [] rest else linesFrom (c :: read) rest

def lines (text : Text) : List Text := linesFrom [] text

end SourceGrade.Text
