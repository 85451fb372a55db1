import SourceGrade.Json.Number
import SourceGrade.Json.Value

/-!
# Printing JSON

The pretty form: two blanks for each level, one item or member on a line, nothing between the
brackets of an empty array or object.
-/

namespace SourceGrade.Json

def hexDigits (n : Nat) : Text := [Nat.digitChar (n / 16), Nat.digitChar (n % 16)]

/-- A character inside a string: quotes, backslashes and control characters are escaped. -/
def escape (c : Char) : Text :=
  if c = '"' then "\\\""
  else if c = '\\' then "\\\\"
  else if c = '\x08' then "\\b"
  else if c = '\x0c' then "\\f"
  else if c = '\n' then "\\n"
  else if c = '\r' then "\\r"
  else if c = '\t' then "\\t"
  else if c.toNat < 0x20 then "\\u00" ++ hexDigits c.toNat
  else [c]

def quote (text : Text) : Text := '"' :: text.flatMap escape ++ ['"']

/-- A line break and the indentation of a level. -/
def newline (depth : Nat) : Text := '\n' :: List.replicate (2 * depth) ' '

mutual

def prettyAt (depth : Nat) : Json → Text
  | null => "null"
  | bool value => if value then "true" else "false"
  | nat value => Text.ofNat value
  | double value => ofDouble value
  | string value => quote value
  | array [] => "[]"
  | array (item :: items) =>
    "[" ++ newline (depth + 1) ++ prettyAt (depth + 1) item ++ moreItems (depth + 1) items ++
      newline depth ++ "]"
  | object [] => "\x7b\x7d"
  | object ((name, value) :: members) =>
    "\x7b" ++ newline (depth + 1) ++ quote name ++ ": " ++ prettyAt (depth + 1) value ++
      moreMembers (depth + 1) members ++ newline depth ++ "\x7d"

/-- The items behind the first one. -/
def moreItems (depth : Nat) : List Json → Text
  | [] => []
  | item :: items => "," ++ newline depth ++ prettyAt depth item ++ moreItems depth items

/-- The members behind the first one. -/
def moreMembers (depth : Nat) : List (Text × Json) → Text
  | [] => []
  | (name, value) :: members =>
    "," ++ newline depth ++ quote name ++ ": " ++ prettyAt depth value ++ moreMembers depth members

end

def pretty (json : Json) : Text := prettyAt 0 json

end SourceGrade.Json
