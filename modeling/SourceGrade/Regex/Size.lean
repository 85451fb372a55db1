import SourceGrade.Regex.Basic

/-!
# The size of a regular expression

A regular expression is turned into states that read a text byte by byte. Their memory is limited,
so that counted repetitions cannot take any amount of it.
-/

namespace SourceGrade.Regex

/-- The bytes that a state takes. -/
def stateSize : Nat := 32

/-- The bytes of a way out of a state that has several. -/
def exitSize : Nat := 4

/-- The bytes of a range of bytes that a state reads. -/
def rangeSize : Nat := 8

/-- The most bytes that all states may take. -/
def maxSize : Nat := 10485760

/-- What a search takes besides the states of the expression itself. -/
def searchSize : Nat := 6 * stateSize + 2 * exitSize

/-- The numbers from `low` to `high`, given by their digits to the base 64 with `places` of them
behind the first: rows of ranges, one range for each digit. -/
def digitRanges : (places : Nat) → (low high : Nat) → List (List (Nat × Nat))
  | 0, low, high => [[(low, high)]]
  | places + 1, low, high =>
    let unit := Nat.pow 64 (places + 1)
    let first := low / unit
    let last := high / unit
    let behind (digit low high : Nat) : List (List (Nat × Nat)) :=
      (digitRanges places low high).map ((digit, digit) :: ·)
    if first = last then behind first (low % unit) (high % unit)
    else
      let start := if low % unit = 0 then first else first + 1
      let stop := if high % unit + 1 = unit then last + 1 else last
      (if start = first then [] else behind first (low % unit) (unit - 1)) ++
        (if start < stop then [(start, stop - 1) :: List.replicate (places + 1) (0, 63)] else []) ++
        (if stop = last then behind last 0 (high % unit) else [])

/-- The characters whose UTF-8 form has so many bytes behind the first. -/
def utf8Ranges : List (Nat × Nat × Nat) :=
  [(0, 0, 0x7F), (1, 0x80, 0x7FF), (2, 0x800, 0xD7FF), (2, 0xE000, 0xFFFF), (3, 0x10000, 0x10FFFF)]

/-- The ranges of bytes that the characters of a class consist of. -/
def byteRanges (cls : CharClass) : List (List (Nat × Nat)) :=
  utf8Ranges.flatMap fun (places, first, last) =>
    cls.flatMap fun (low, high) =>
      let low := max low first
      let high := min high last
      if low ≤ high then digitRanges places low high else []

/-- How many members two rows of the same length have in common at their beginnings. -/
def commonStart (a b : List (Nat × Nat)) : Nat :=
  if a.length = b.length then ((List.zip a b).takeWhile fun (x, y) => x == y).length else 0

/-- The number of states for rows of ranges, where rows share what they have in common with the one
before. -/
def rowStates (before : List (Nat × Nat)) : List (List (Nat × Nat)) → Nat
  | [] => 0
  | row :: rest => row.length - commonStart before row + rowStates row rest

/-- The bytes for a character of a class. -/
def classSize (cls : CharClass) : Nat :=
  let rows := byteRanges cls
  match cls with
  | [(low, high)] =>
    if low = high then stateSize * rows.flatten.length
    else if cls.isAscii then 2 * stateSize
    else stateSize * (rowStates [] rows + 2) + exitSize * rows.length
  | _ =>
    if cls.isAscii then 2 * stateSize + rangeSize * cls.length
    else stateSize * (rowStates [] rows + 2) + exitSize * rows.length

/-- The bytes for the states of an expression. -/
def size : Regex → Nat
  | empty | look _ => stateSize
  | anyOf cls => classSize cls
  | append first second => first.size + second.size
  | either first second => first.size + second.size + 2 * (stateSize + exitSize)
  | repeated body least most =>
    let body := body.size
    let choice := stateSize + 2 * exitSize
    match most with
    | none => max least 1 * body + choice
    | some most =>
      least * body + (most - least) * (body + choice) + if least < most then stateSize else 0
  | captured body => body.size + 2 * stateSize

def isTooLarge (r : Regex) : Bool := maxSize < r.size + searchSize

end SourceGrade.Regex
