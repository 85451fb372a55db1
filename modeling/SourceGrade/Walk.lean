import SourceGrade.Fault
import SourceGrade.Path.Basic

/-!
# Walking a tree of directories

The walk lists one directory after the other. The files of a directory are found in the order of its
listing; its subdirectories wait until it is done, and the one found last is listed next. Links to
directories are neither files nor followed, and a subdirectory that cannot be listed is passed over.
-/

namespace SourceGrade

inductive EntryKind where
  | file
  | directory
  | linkedDirectory
deriving DecidableEq

structure Entry where
  name : Bytes
  kind : EntryKind
deriving DecidableEq

/-- What a walk comes across. -/
inductive WalkEvent where
  | file (path : Path)
  | linkedDirectory (path : Path)
  | unlistable (directory : Path) (error : IoError)
deriving DecidableEq

structure Walk where
  events : List WalkEvent := []
  /-- The directories still to be listed, the next one first. -/
  pending : List Path := []

namespace Walk

def event? (directory : Path) (entry : Entry) : Option WalkEvent :=
  match entry.kind with
  | .file => some (.file (directory.join entry.name))
  | .directory => none
  | .linkedDirectory => some (.linkedDirectory (directory.join entry.name))

def subdirectory? (directory : Path) (entry : Entry) : Option Path :=
  match entry.kind with
  | .directory => some (directory.join entry.name)
  | _ => none

/-- The walk behind the listing of a directory. -/
def visit (walk : Walk) (directory : Path) (entries : List Entry) : Walk where
  events := walk.events ++ entries.filterMap (event? directory)
  pending := (entries.filterMap (subdirectory? directory)).reverse ++ walk.pending

/-- The walk behind a directory that cannot be listed. -/
def passOver (walk : Walk) (directory : Path) (error : IoError) : Walk :=
  { walk with events := walk.events ++ [.unlistable directory error] }

/-- Lists pending directories until none is left, but no more than `fuel` of them. -/
def run (list : Path → Except IoError (List Entry)) : (fuel : Nat) → Walk → Walk
  | 0, walk => walk
  | fuel + 1, walk =>
    match walk.pending with
    | [] => walk
    | directory :: rest =>
      let walk := { walk with pending := rest }
      match list directory with
      | .ok entries => run list fuel (walk.visit directory entries)
      | .error e => run list fuel (walk.passOver directory e)

/-- The files among the events, in order. -/
def files (events : List WalkEvent) : List Path :=
  events.filterMap fun
    | .file path => some path
    | _ => none

end Walk

end SourceGrade
