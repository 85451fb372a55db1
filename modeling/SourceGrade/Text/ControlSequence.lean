import SourceGrade.Text.Basic

/-!
# Control sequences

What a text says once the control characters and the control sequences of terminals are taken out of
it. An escape character opens a sequence; its kind tells how far it reaches.

A blank control character inside a short sequence is kept, and the text behind it is shown, up to
the next character that is not: there the sequence goes on.
-/

namespace SourceGrade.ControlSequence

/-- The kind of the open sequence, and how far it has been read. -/
inductive Mode where
  /-- No sequence is open. -/
  | ground
  | escape
  /-- An escape sequence of several characters. -/
  | intermediate
  /-- A control sequence with its parameters. -/
  | control
  /-- A device control string: before its parameters, inside or behind them. -/
  | deviceEntry
  | deviceParameter
  | deviceIntermediate
  /-- A system command, up to a bell. -/
  | command
  /-- A string up to a string terminator. -/
  | string
deriving DecidableEq

/-- Line ends, tabulators and form feeds. -/
def isBlankControl (c : Char) : Bool := c == '\t' || c == '\n' || c == '\x0c' || c == '\r'

/-- Whether a character is shown outside of sequences. -/
def isShown (c : Char) : Bool := (0x20 ≤ c.toNat && c.toNat != 0x7F) || isBlankControl c

/-- The string terminator, which is found in every byte of the text. -/
def isTerminator (c : Char) : Bool := (String.utf8EncodeChar c).contains 0x9C

/-- The mode behind a character that an open sequence takes. -/
def Mode.next (mode : Mode) (c : Char) : Mode :=
  let within (low high : Nat) : Bool := low ≤ c.toNat && c.toNat ≤ high
  if c = '\x1b' then escape
  else if c = '\x18' ∨ c = '\x1a' then ground
  else
    match mode with
    | ground => ground
    | escape =>
      if within 0x20 0x2F then intermediate
      else if c = 'P' then deviceEntry
      else if c = 'X' ∨ c = '^' ∨ c = '_' then string
      else if c = '[' then control
      else if c = ']' then command
      else if within 0x30 0x7E then ground
      else escape
    | intermediate => if within 0x30 0x7E then ground else intermediate
    | control => if within 0x40 0x7E then ground else control
    | deviceEntry =>
      if within 0x20 0x2F then deviceIntermediate
      else if within 0x30 0x3F then deviceParameter
      else if within 0x40 0x7E then string
      else deviceEntry
    | deviceParameter =>
      if within 0x20 0x2F then deviceIntermediate
      else if within 0x3C 0x7E then string
      else deviceParameter
    | deviceIntermediate => if within 0x30 0x7E then string else deviceIntermediate
    | command => if c = '\x07' then ground else command
    | string => if isTerminator c then ground else string

/-- Whether a character is shown although the mode may be that of an open sequence. -/
def Mode.shows (mode : Mode) (c : Char) : Bool :=
  match mode with
  | ground => isShown c
  | escape | intermediate | control => isBlankControl c
  | _ => false

/-- What is shown of a text. While `showing`, every character is taken for one outside of sequences
until one of them is not shown. -/
def strip (mode : Mode) (showing : Bool) : Text → Text
  | [] => []
  | c :: rest =>
    if (showing && isShown c) || mode.shows c then
      c :: strip (if 0x80 ≤ c.toNat then .ground else mode) true rest
    else strip (mode.next c) false rest

end ControlSequence

/-- The text without control characters, other than blank ones, and without control sequences. -/
def Text.withoutControls (text : Text) : Text := ControlSequence.strip .ground true text

example : Text.withoutControls "\x1b[31mred\x1b[0m\x07".toList = "red".toList := by decide

end SourceGrade
