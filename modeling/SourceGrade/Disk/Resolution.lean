import SourceGrade.Disk.Basic

/-!
# Resolving paths

A path is resolved from the root or the working directory, segment by segment. Every segment needs a
directory to be looked up in, so that a path with a trailing separator names a directory. Links are
followed, forty of them at most. A path is resolved either to use what is there or to write a file
that may be new; then a trailing separator, also one of a link, is refused before anything is looked up.
-/

namespace SourceGrade.Disk

def maxLinks : Nat := 40

def maxNameLength : Nat := 255

/-- The length of the longest path that the system takes. -/
def maxPathLength : Nat := 4095

/-- What a path is resolved for. -/
inductive Purpose where
  | use
  | writing
deriving DecidableEq

/-- What a path leads to: a node, or the place of a node that could be created. -/
inductive Target where
  | found (place : Place)
  | missing (parent : Place) (name : Bytes)

/-- Where a path starts. -/
def startOf (place : Place) (path : Path) : Place :=
  if path.head? = some Path.separator then [] else place

/-- Goes through the segments from a node. At a link, `follow` goes on with the segments of its
target in front of the remaining ones. -/
def descend (purpose : Purpose) (follow : Place → List Bytes → Except OsError Target)
    (trail : Node.Trail) : List Bytes → Except OsError Target
  | [] => .ok (.found trail.place)
  | segment :: rest =>
    match trail.node with
    | .directory entries _ =>
      match Path.Component.ofSegment? segment with
      | some (.name name) =>
        if purpose = .writing ∧ rest ≠ [] ∧ rest.all (·.isEmpty) then .error .isADirectory
        else if maxNameLength < name.length then .error .nameTooLong
        else
          match entries.lookup name with
          | none => if rest = [] then .ok (.missing trail.place name) else .error .notFound
          | some (.link target) => follow (startOf trail.place target) (target.segments ++ rest)
          | some node => descend purpose follow (trail.down name node) rest
      | some .parent => descend purpose follow trail.parent rest
      | _ => descend purpose follow trail rest
    | _ => .error .notADirectory

/-- Goes through the segments from a place. -/
def descendFrom (disk : Disk) (purpose : Purpose)
    (follow : Place → List Bytes → Except OsError Target) (place : Place) (segments : List Bytes) :
    Except OsError Target :=
  match disk.trail? place with
  | some trail => descend purpose follow trail segments
  | none => .error .notFound

/-- Goes through the segments from a place, following at most `links` links. -/
def resolve (disk : Disk) (purpose : Purpose) :
    (links : Nat) → Place → List Bytes → Except OsError Target
  | 0 => disk.descendFrom purpose fun _ _ => .error .tooManyLinks
  | links + 1 => disk.descendFrom purpose (disk.resolve purpose links)

/-- The place where a path starts and its segments. -/
def locate (disk : Disk) (path : Path) : Place × List Bytes :=
  (startOf disk.workingDirectory path, path.segments)

/-- A path that the system takes at all. -/
def check (path : Path) : Except IoError Unit :=
  if path.contains 0 then .error .nulInPath
  else if path = [] then .error (.os .notFound)
  else if maxPathLength < path.length then .error (.os .nameTooLong)
  else .ok ()

def target (disk : Disk) (purpose : Purpose) (path : Path) : Except IoError Target := do
  check path
  let (start, segments) := disk.locate path
  (disk.resolve purpose maxLinks start segments).mapError .os

/-- The node that a path names. -/
def find (disk : Disk) (path : Path) : Except IoError Node := do
  match ← disk.target .use path with
  | .found place =>
    match disk.node? place with
    | some node => .ok node
    | none => .error (.os .notFound)
  | .missing .. => .error (.os .notFound)

def isDirectory (disk : Disk) (path : Path) : Bool :=
  match disk.find path with
  | .ok node => node.isDirectory
  | .error _ => false

def readFile (disk : Disk) (path : Path) : Except IoError Bytes := do
  match ← disk.find path with
  | .file content permissions =>
    if permissions.readable then .ok content else .error (.os .permissionDenied)
  | _ => .error (.os .isADirectory)

end SourceGrade.Disk
