import SourceGrade.Fault
import SourceGrade.Path.Order

/-!
# Disks

A disk is a finite tree of files, directories and symbolic links, seen from a working directory. A
place in the tree is the list of names that leads there from the root.
-/

namespace SourceGrade

/-- What may be done with a file. -/
structure Permissions where
  readable : Bool := true
  writable : Bool := true

inductive Node where
  | file (content : Bytes) (permissions : Permissions := {})
  | link (target : Path)
  /-- Entries in the order of a listing, which only a listable directory gives away. -/
  | directory (entries : List (Bytes × Node)) (listable : Bool)

abbrev Place := List Bytes

namespace Node

def isDirectory : Node → Bool
  | directory .. => true
  | _ => false

/-- The node at a place below. -/
def at? : Node → Place → Option Node
  | node, [] => some node
  | directory entries _, name :: rest => (entries.lookup name).bind (at? · rest)
  | _, _ :: _ => none

/-- A node of a tree together with the way that leads to it. -/
structure Trail where
  node : Node
  /-- The directories above, the nearest first, each with the name that leads on from it. -/
  above : List (Bytes × Node) := []

namespace Trail

def place (t : Trail) : Place := (t.above.map (·.1)).reverse

/-- The directory above, and the root above itself. -/
def parent (t : Trail) : Trail :=
  match t.above with
  | [] => t
  | (_, node) :: above => ⟨node, above⟩

/-- On to the entry with the given name. -/
def down (t : Trail) (name : Bytes) (node : Node) : Trail := ⟨node, (name, t.node) :: t.above⟩

/-- On to a place below. -/
def downTo? (t : Trail) : Place → Option Trail
  | [] => some t
  | name :: rest =>
    match t.node with
    | directory entries _ => (entries.lookup name).bind fun node => (t.down name node).downTo? rest
    | _ => none

theorem map_node_downTo? (t : Trail) (place : Place) :
    (t.downTo? place).map (·.node) = t.node.at? place := by
  induction place generalizing t with
  | nil => simp [downTo?, at?]
  | cons name rest ih =>
    obtain ⟨node, above⟩ := t
    cases node with
    | file | link => simp [downTo?, at?]
    | directory entries listable =>
      cases h : entries.lookup name <;> simp [downTo?, at?, h, ih, down]

/-- The way back leads along the names that led there. -/
theorem place_of_downTo? {t t' : Trail} {place : Place} (h : t.downTo? place = some t') :
    t'.place = t.place ++ place := by
  induction place generalizing t with
  | nil =>
    simp only [downTo?, Option.some.injEq] at h
    simp [h]
  | cons name rest ih =>
    rw [downTo?] at h
    split at h
    · obtain ⟨node, -, h⟩ := Option.bind_eq_some_iff.1 h
      rw [ih h]
      simp [Trail.place, down]
    · cases h

end Trail

/-- The entries with a new node under a name, behind all others if the name is new. -/
def setEntry (name : Bytes) (node : Node) : List (Bytes × Node) → List (Bytes × Node)
  | [] => [(name, node)]
  | (other, old) :: rest =>
    if other = name then (name, node) :: rest else (other, old) :: setEntry name node rest

/-- The tree with a new node at a place. Its directory must be there. -/
def put (node : Node) : Place → Node → Node
  | [], _ => node
  | name :: rest, directory entries listable =>
    match entries.lookup name with
    | some child => directory (setEntry name (put node rest child) entries) listable
    | none =>
      if rest = [] then directory (setEntry name node entries) listable
      else directory entries listable
  | _, tree => tree

mutual

/-- The number of directories in a tree. -/
def directoryCount : Node → Nat
  | directory entries _ => 1 + directoryCounts entries
  | _ => 0

def directoryCounts : List (Bytes × Node) → Nat
  | [] => 0
  | (_, node) :: rest => directoryCount node + directoryCounts rest

end

mutual

/-- The regular files of a tree with their contents, each under its path. -/
def files (path : Path) : Node → List (Path × Bytes)
  | file content _ => [(path, content)]
  | link _ => []
  | directory entries _ => filesIn path entries

def filesIn (path : Path) : List (Bytes × Node) → List (Path × Bytes)
  | [] => []
  | (name, node) :: rest => files (path.join name) node ++ filesIn path rest

end

end Node

structure Disk where
  root : Node
  workingDirectory : Place

namespace Disk

def node? (disk : Disk) (place : Place) : Option Node := disk.root.at? place

/-- The node at a place together with the way to it from the root. -/
def trail? (disk : Disk) (place : Place) : Option Node.Trail :=
  Node.Trail.downTo? { node := disk.root } place

theorem map_node_trail? (disk : Disk) (place : Place) :
    (disk.trail? place).map (·.node) = disk.node? place :=
  Node.Trail.map_node_downTo? _ place

theorem place_of_trail? {disk : Disk} {place : Place} {t : Node.Trail}
    (h : disk.trail? place = some t) : t.place = place :=
  Node.Trail.place_of_downTo? h

/-- The regular files below the working directory, under their relative paths. -/
def files (disk : Disk) : List (Path × Bytes) :=
  ((disk.node? disk.workingDirectory).map (Node.files [])).getD []

/-- The regular files of `after` that `before` has not, or with another content, by path. -/
def changedFiles (before after : Disk) : List (Path × Bytes) :=
  let changed := after.files.filter fun file => !before.files.contains file
  changed.mergeSort fun x y => bytesLe x.1 y.1

end Disk

end SourceGrade
