import SourceGrade.Proofs.Disk.Planting
import SourceGrade.Proofs.Disk.Walk

/-!
# The files of a disk

What the listing of a root comes to, in terms of the tree that the disk is.
-/

namespace SourceGrade.Disk

variable {disk : Disk} {root path : Path} {top : Node} {listing : List Entry}

theorem listFiles_of_list (h : disk.list root = .ok listing) :
    disk.fileSystem.listFiles root =
      .ok (Walk.files
        (Walk.run disk.list disk.root.directoryCount (Walk.visit {} root listing)).events) := by
  show (Walk.files <$> disk.walk root).mapError Fault.io = _
  rw [walk, h]
  rfl

theorem listFiles_of_list_error {e : IoError} (h : disk.list root = .error e) :
    disk.fileSystem.listFiles root = .error (.io e) := by
  show (Walk.files <$> disk.walk root).mapError Fault.io = _
  rw [walk, h]
  rfl

theorem listFiles_eq_error_iff {fault : Fault} :
    disk.fileSystem.listFiles root = .error fault ↔
      ∃ e, disk.list root = .error e ∧ fault = .io e := by
  cases hlist : disk.list root with
  | error e =>
    rw [listFiles_of_list_error hlist]
    constructor
    · intro h
      injection h with h
      exact ⟨e, rfl, h.symm⟩
    · rintro ⟨_, he, rfl⟩
      injection he with he
      rw [he]
  | ok listing =>
    rw [listFiles_of_list hlist]
    exact ⟨nofun, fun ⟨_, he, _⟩ => nomatch he⟩

theorem Awaits.of_find (hnames : disk.root.WellNamed) (hfind : disk.find path = .ok top)
    (hdirectory : top.isDirectory = true) : Awaits disk (path, top) := by
  rcases find_eq_ok_iff.1 hfind with ⟨-, place, -, hplace⟩
  refine ⟨hdirectory, hnames.of_at? hplace, fun node hnode => ?_⟩
  rw [hfind] at hnode
  injection hnode with hnode
  exact hnode.symm

theorem directoryCount_le_of_find (hfind : disk.find path = .ok top) :
    top.directoryCount ≤ disk.root.directoryCount := by
  rcases find_eq_ok_iff.1 hfind with ⟨-, place, -, hplace⟩
  exact Node.directoryCount_le_of_at? hplace

/-- Behind the listing of the root a walk needs one step for each directory of the disk at most, and
it finds what the recursion finds. -/
theorem files_run_visit (hnames : disk.root.WellNamed) (hlist : disk.list root = .ok listing)
    {fuel : Nat} (hfuel : disk.root.directoryCount ≤ fuel) :
    ∃ top, disk.find root = .ok top ∧ top.WellNamed ∧ top.isDirectory = true ∧
      (Walk.run disk.list fuel (Walk.visit {} root listing)).pending = [] ∧
      Walk.files (Walk.run disk.list fuel (Walk.visit {} root listing)).events =
        disk.filesBelow root top := by
  rcases list_eq_ok_iff.1 hlist with ⟨entries, hfind, -⟩
  have hroot := Awaits.of_find hnames hfind rfl
  have hcount := directoryCount_le_of_find hfind
  refine ⟨_, hfind, hroot.wellNamed, rfl, ?_⟩
  -- The root is one more directory that waits, in front of an empty walk.
  have hpending : ({ pending := [root] } : Walk).pending =
    [(root, Node.directory entries true)].map (·.1) := rfl
  have hfuel : Node.directoryCounts [(root, .directory entries true)] ≤ fuel + 1 := by
    rw [Node.directoryCounts, Node.directoryCounts]
    omega
  have hrun := files_run hpending (List.forall_mem_singleton.2 hroot) hfuel
  have hstep : Walk.run disk.list (fuel + 1) { pending := [root] } =
      Walk.run disk.list fuel (Walk.visit {} root listing) := by
    rw [Walk.run]
    simp only [hlist]
  rw [hstep, List.flatMap_singleton] at hrun
  exact hrun

/-- A directory is not one of its own files, so that a file has directories above it. -/
theorem mem_filesBelow_iff_file (htop : top.WellNamed) (hdirectory : top.isDirectory = true) :
    path ∈ disk.filesBelow root top ↔
      ∃ above node, Node.Below root top above path node ∧
        (∀ dir ∈ above, (disk.list dir).isOk = true) ∧ node.isDirectory = false ∧
        ∀ target, node = .link target → disk.isDirectory path = false := by
  rw [mem_filesBelow_iff_below htop]
  constructor
  · rintro ⟨above, node, hbelow, -, habove, hkind⟩
    exact ⟨above, node, hbelow, habove, (entryKind_eq_file_iff disk path node).1 hkind⟩
  · rintro ⟨above, node, hbelow, habove, hkind⟩
    refine ⟨above, node, hbelow, ?_, habove, (entryKind_eq_file_iff disk path node).2 hkind⟩
    intro hnil
    rw [hnil] at hbelow
    cases hbelow
    rw [hdirectory] at hkind
    cases hkind.1

/-- Listing the files below a root fails only if the root cannot be listed. Otherwise the walk comes
to an end and finds, each of them once, the entries that have nothing but listable directories above
them and are neither directories nor links to directories. -/
theorem listFiles_spec (disk : Disk) (root : Path) (hnames : disk.root.WellNamed) :
    (∀ fault, disk.fileSystem.listFiles root = .error fault ↔
      ∃ e, disk.list root = .error e ∧ fault = .io e) ∧
    (∀ listing, disk.list root = .ok listing →
      ∃ top files, disk.find root = .ok top ∧ disk.fileSystem.listFiles root = .ok files ∧
        (∀ fuel, disk.root.directoryCount ≤ fuel →
          (Walk.run disk.list fuel (Walk.visit {} root listing)).pending = [] ∧
          Walk.files (Walk.run disk.list fuel (Walk.visit {} root listing)).events = files) ∧
        files.Nodup ∧
        ∀ path, path ∈ files ↔
          ∃ above node, Node.Below root top above path node ∧
            (∀ dir ∈ above, (disk.list dir).isOk = true) ∧ node.isDirectory = false ∧
            ∀ target, node = .link target → disk.isDirectory path = false) := by
  refine ⟨fun fault => listFiles_eq_error_iff, fun listing hlist => ?_⟩
  rcases files_run_visit hnames hlist (Nat.le_refl _) with
    ⟨top, hfind, hwellNamed, hdirectory, -, hfiles⟩
  refine ⟨top, disk.filesBelow root top, hfind, ?_, ?_, nodup_filesBelow hwellNamed root,
    fun path => mem_filesBelow_iff_file hwellNamed hdirectory⟩
  · rw [listFiles_of_list hlist, hfiles]
  · intro fuel hfuel
    rcases files_run_visit hnames hlist hfuel with ⟨top', hfind', -, -, hrun⟩
    rw [hfind] at hfind'
    injection hfind' with hfind'
    rw [hfind']
    exact hrun

/-- A directory `r` with a file `a`, a link `u` back to `r`, a link `g` to nothing, a subdirectory `s`
with a file `x`, and another one, `z`, that cannot be listed. -/
def tangledDisk : Disk where
  root := .directory [([0x72], .directory
    [([0x61], .file []), ([0x75], .link [0x2F, 0x72]), ([0x67], .link [0x71]),
      ([0x73], .directory [([0x78], .file [])] true),
      ([0x7A], .directory [([0x79], .file [])] false)] true)] true
  workingDirectory := []

theorem tangledDisk_wellNamed : tangledDisk.root.WellNamed := by
  have hplanted : tangledDisk = empty.plantAll
      [([0x72, 0x2F, 0x61], .file []), ([0x72, 0x2F, 0x75], .link [0x2F, 0x72]),
        ([0x72, 0x2F, 0x67], .link [0x71]), ([0x72, 0x2F, 0x73, 0x2F, 0x78], .file []),
        ([0x72, 0x2F, 0x7A], .directory [] false), ([0x72, 0x2F, 0x7A, 0x2F, 0x79], .file [])] := rfl
  rw [hplanted]
  apply plantAll_empty_wellNamed
  simp [Node.WellNamed.file, Node.WellNamed.link, directory_nil_wellNamed]

theorem listFiles_spec_tangled :
    tangledDisk.root.WellNamed ∧ ∃ top, tangledDisk.find [0x72] = .ok top ∧
      ∀ path, path ∈ ([[0x72, 0x2F, 0x61], [0x72, 0x2F, 0x67], [0x72, 0x2F, 0x73, 0x2F, 0x78]] :
          List Path) ↔
        ∃ above node, Node.Below [0x72] top above path node ∧
          (∀ dir ∈ above, (tangledDisk.list dir).isOk = true) ∧ node.isDirectory = false ∧
          ∀ target, node = .link target → tangledDisk.isDirectory path = false := by
  refine ⟨tangledDisk_wellNamed, ?_⟩
  have hlist : tangledDisk.list [0x72] = .ok
      [⟨[0x61], .file⟩, ⟨[0x75], .linkedDirectory⟩, ⟨[0x67], .file⟩, ⟨[0x73], .directory⟩,
        ⟨[0x7A], .directory⟩] := rfl
  obtain ⟨top, files, hfind, hfiles, -, -, hmem⟩ :=
    (listFiles_spec tangledDisk [0x72] tangledDisk_wellNamed).2 _ hlist
  have hrun : tangledDisk.fileSystem.listFiles [0x72] =
      .ok [[0x72, 0x2F, 0x61], [0x72, 0x2F, 0x67], [0x72, 0x2F, 0x73, 0x2F, 0x78]] := rfl
  rw [hfiles] at hrun
  injection hrun with hrun
  exact ⟨top, hfind, hrun ▸ hmem⟩

end SourceGrade.Disk
