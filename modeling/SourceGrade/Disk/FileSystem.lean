import SourceGrade.Disk.Resolution
import SourceGrade.FileSystem
import SourceGrade.Walk

/-!
# The file system of a disk
-/

namespace SourceGrade.Disk

/-- The kind of an entry with a given path. A link counts as what its target is, and as a file when
it has none. -/
def entryKind (disk : Disk) (path : Path) : Node → EntryKind
  | .file .. => .file
  | .directory .. => .directory
  | .link _ => if disk.isDirectory path then .linkedDirectory else .file

def list (disk : Disk) (path : Path) : Except IoError (List Entry) := do
  match ← disk.find path with
  | .directory entries listable =>
    if listable then
      .ok (entries.map fun (name, node) => ⟨name, disk.entryKind (path.join name) node⟩)
    else .error (.os .permissionDenied)
  | _ => .error (.os .notADirectory)

/-- Everything that a walk from a root comes across. The root must be listable. Each directory of
the disk is listed at most once. -/
def walk (disk : Disk) (root : Path) : Except IoError (List WalkEvent) := do
  let entries ← disk.list root
  return (Walk.run disk.list disk.root.directoryCount (Walk.visit {} root entries)).events

def fileSystem (disk : Disk) : FileSystem where
  isDirectory := disk.isDirectory
  listFiles root := (Walk.files <$> disk.walk root).mapError .io
  readText path := (Utf8.decode <$> disk.readFile path).mapError .io

end SourceGrade.Disk
