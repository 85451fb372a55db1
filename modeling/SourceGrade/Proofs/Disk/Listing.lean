import SourceGrade.Disk.FileSystem

/-!
# Listing a directory

Which directories can be listed, and the kinds of what they list.
-/

namespace SourceGrade.Disk

variable {disk : Disk} {dir : Path} {listing : List Entry} {entries : List (Bytes × Node)}

/-! ## Kinds -/

theorem entryKind_link (disk : Disk) (path target : Path) :
    disk.entryKind path (.link target) =
      if disk.isDirectory path then .linkedDirectory else .file := rfl

/-- A link counts as a file unless its path leads to a directory. -/
theorem entryKind_eq_file_iff (disk : Disk) (path : Path) (node : Node) :
    disk.entryKind path node = .file ↔
      node.isDirectory = false ∧ ∀ target, node = .link target → disk.isDirectory path = false := by
  cases node with
  | file content => exact ⟨fun _ => ⟨rfl, nofun⟩, fun _ => rfl⟩
  | directory entries listable => exact ⟨nofun, fun h => nomatch h.1⟩
  | link target =>
    rw [entryKind_link]
    cases disk.isDirectory path with
    | false => exact ⟨fun _ => ⟨rfl, fun _ _ => rfl⟩, fun _ => rfl⟩
    | true => exact ⟨nofun, fun h => nomatch h.2 target rfl⟩

theorem entryKind_eq_directory_iff (disk : Disk) (path : Path) (node : Node) :
    disk.entryKind path node = .directory ↔ node.isDirectory = true := by
  cases node with
  | file content => exact ⟨nofun, nofun⟩
  | directory entries listable => exact ⟨fun _ => rfl, fun _ => rfl⟩
  | link target =>
    rw [entryKind_link]
    cases disk.isDirectory path <;> exact ⟨nofun, nofun⟩

/-! ## Listings -/

def entryOf (disk : Disk) (dir : Path) (entry : Bytes × Node) : Entry :=
  ⟨entry.1, disk.entryKind (dir.join entry.1) entry.2⟩

theorem list_eq_ok_iff : disk.list dir = .ok listing ↔
    ∃ entries, disk.find dir = .ok (.directory entries true) ∧
      listing = entries.map (disk.entryOf dir) := by
  cases hfind : disk.find dir with
  | error e =>
    rw [list, hfind]
    exact ⟨nofun, fun ⟨_, h, _⟩ => nomatch h⟩
  | ok node =>
    rw [list, hfind]
    cases node with
    | file | link => exact ⟨nofun, fun ⟨_, h, _⟩ => nomatch h⟩
    | directory entries listable =>
      cases listable with
      | false => exact ⟨nofun, fun ⟨_, h, _⟩ => nomatch h⟩
      | true =>
        constructor
        · intro h
          injection h with h
          exact ⟨entries, rfl, h.symm⟩
        · rintro ⟨_, h, rfl⟩
          cases h
          rfl

end SourceGrade.Disk
