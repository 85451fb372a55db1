import SourceGrade.Text.Utf8

/-!
# Paths

A path is a string of bytes. What it names is given by its components: repeated and trailing
separators and every `.` but a leading one say nothing, and `..` stays.
-/

namespace SourceGrade

abbrev Path := Bytes

namespace Path

def separator : UInt8 := 0x2F

def dot : UInt8 := 0x2E

def ofText (text : Text) : Path := Utf8.encode text

/-- The path as messages show it. -/
def display (p : Path) : Text := Utf8.decode p

/-- The parts of a path between separators, empty ones included. -/
def segments (p : Path) : List Bytes := pieces separator p

inductive Component where
  | root
  | here
  | parent
  | name (bytes : Bytes)
deriving DecidableEq

/-- The component that a segment stands for, unless it says nothing. -/
def Component.ofSegment? (segment : Bytes) : Option Component :=
  if segment = [] ∨ segment = [dot] then none
  else if segment = [dot, dot] then some .parent
  else some (.name segment)

def components (p : Path) : List Component :=
  match p.segments with
  | [] => []
  | first :: rest =>
    let named := rest.filterMap Component.ofSegment?
    if first = [] then (if rest = [] then [] else .root :: named)
    else if first = [dot] then .here :: named
    else (Component.ofSegment? first).toList ++ named

/-- The last component, if it is a name. -/
def fileName? (p : Path) : Option Bytes :=
  match p.components.getLast? with
  | some (.name bytes) => some bytes
  | _ => none

/-- What follows the last dot of the file name, unless that dot is its first byte and only dot. -/
def extension? (p : Path) : Option Bytes := do
  let name ← p.fileName?
  let after := name.reverse.takeWhile (· ≠ dot)
  let stem := (name.reverse.drop after.length).drop 1
  if stem = [] then none else some after.reverse

example : extension? (ofText "a/b.tar.gz/.".toList) = some (ofText "gz".toList) := by decide +kernel

example : extension? (ofText "a/.py".toList) = none := by decide +kernel

example : extension? (ofText "a.".toList) = some [] := by decide +kernel

/-- The path of an entry of the directory `dir`. -/
def join (dir : Path) (name : Bytes) : Path :=
  match dir.getLast? with
  | none => name
  | some b => if b = separator then dir ++ name else dir ++ separator :: name

def Component.bytes : Component → Bytes
  | .root => []
  | .here => [dot]
  | .parent => [dot, dot]
  | .name bytes => bytes

/-- The plainest path with the given components. -/
def ofComponents : List Component → Path
  | [.root] => [separator]
  | components => [separator].intercalate (components.map Component.bytes)

/-- The directories above a path, the nearest first; the last one is the root or the empty path,
which have none themselves. -/
def parents (p : Path) : List Path :=
  let components := p.components
  let least := if components.head? = some .root then 1 else 0
  (List.range (components.length - least)).reverse.map fun n => ofComponents (components.take (n + least))

end Path

end SourceGrade
