import SourceGrade.Proofs.Disk.Listing
import SourceGrade.Proofs.Disk.Resolution
import SourceGrade.Proofs.Disk.Tree

/-!
# Files below a directory

The files below a directory are its own, in the order of its listing, and then those below its
subdirectories, the last one first. A directory that cannot be listed has none.
-/

namespace SourceGrade.Disk

variable {disk : Disk} {dir root path : Path} {top node : Node} {above : List Path}
  {entries : List (Bytes × Node)} {listable : Bool} {name : Bytes}

/-! ## Own files and subdirectories -/

/-- Entries that are neither a directory nor a link to one. -/
def ownFiles (disk : Disk) (dir : Path) (entries : List (Bytes × Node)) : List Path :=
  (entries.filter fun entry => disk.entryKind (dir.join entry.1) entry.2 = .file).map
    fun entry => dir.join entry.1

def subdirectories (dir : Path) (entries : List (Bytes × Node)) : List (Path × Node) :=
  (entries.filter fun entry => entry.2.isDirectory).map fun entry => (dir.join entry.1, entry.2)

theorem mem_ownFiles_iff :
    path ∈ disk.ownFiles dir entries ↔
      ∃ name node, (name, node) ∈ entries ∧ disk.entryKind path node = .file ∧
        path = dir.join name := by
  unfold ownFiles
  rw [List.mem_map]
  constructor
  · rintro ⟨⟨name, node⟩, hentry, rfl⟩
    rcases List.mem_filter.1 hentry with ⟨hmem, hkind⟩
    exact ⟨name, node, hmem, of_decide_eq_true hkind, rfl⟩
  · rintro ⟨name, node, hmem, hkind, rfl⟩
    exact ⟨(name, node), List.mem_filter.2 ⟨hmem, decide_eq_true hkind⟩, rfl⟩

theorem mem_subdirectories_iff {sub : Path × Node} :
    sub ∈ subdirectories dir entries ↔
      ∃ name, (name, sub.2) ∈ entries ∧ sub.2.isDirectory = true ∧ sub.1 = dir.join name := by
  unfold subdirectories
  rw [List.mem_map]
  constructor
  · rintro ⟨⟨name, node⟩, hentry, rfl⟩
    rcases List.mem_filter.1 hentry with ⟨hmem, hdirectory⟩
    exact ⟨name, hmem, hdirectory, rfl⟩
  · rintro ⟨name, hmem, hdirectory, hpath⟩
    exact ⟨(name, sub.2), List.mem_filter.2 ⟨hmem, hdirectory⟩, Prod.ext hpath.symm rfl⟩

theorem directoryCounts_subdirectories (dir : Path) (entries : List (Bytes × Node)) :
    Node.directoryCounts (subdirectories dir entries) = Node.directoryCounts entries := by
  induction entries with
  | nil => rfl
  | cons entry rest ih =>
    unfold subdirectories at ih ⊢
    cases hnode : entry.2 with
    | file | link =>
      rw [List.filter_cons_of_neg (by rw [hnode]; exact Bool.false_ne_true), ih,
        Node.directoryCounts, hnode]
      exact (Nat.zero_add _).symm
    | directory below listable =>
      rw [List.filter_cons_of_pos (by rw [hnode]; rfl), List.map_cons, Node.directoryCounts, ih,
        Node.directoryCounts]

/-! ## The recursion -/

mutual

def filesBelow (disk : Disk) (dir : Path) : Node → List Path
  | .directory entries _ =>
    if (disk.list dir).isOk then disk.ownFiles dir entries ++ disk.filesBelowAll dir entries else []
  | _ => []

/-- The files below the subdirectories among the entries, the last one first. -/
def filesBelowAll (disk : Disk) (dir : Path) : List (Bytes × Node) → List Path
  | [] => []
  | (name, node) :: rest => disk.filesBelowAll dir rest ++ disk.filesBelow (dir.join name) node

end

theorem filesBelow_of_not_isDirectory (h : node.isDirectory = false) :
    disk.filesBelow dir node = [] := by
  cases node with
  | file | link => rw [filesBelow]; nofun
  | directory => cases h

theorem filesBelow_of_unlistable (h : (disk.list dir).isOk = false) :
    disk.filesBelow dir node = [] := by
  cases node with
  | file | link => exact filesBelow_of_not_isDirectory rfl
  | directory =>
    rw [filesBelow, h]
    rfl

theorem filesBelowAll_eq_flatMap (disk : Disk) (dir : Path) (entries : List (Bytes × Node)) :
    disk.filesBelowAll dir entries =
      (subdirectories dir entries).reverse.flatMap fun sub => disk.filesBelow sub.1 sub.2 := by
  induction entries with
  | nil => rfl
  | cons entry rest ih =>
    rw [filesBelowAll, ih]
    unfold subdirectories
    cases hnode : entry.2.isDirectory with
    | false =>
      rw [filesBelow_of_not_isDirectory hnode, List.append_nil, List.filter_cons_of_neg]
      rw [hnode]
      exact Bool.false_ne_true
    | true =>
      rw [List.filter_cons_of_pos (by exact hnode), List.map_cons, List.reverse_cons, List.flatMap_append,
        List.flatMap_singleton]

theorem filesBelow_of_listable (h : (disk.list dir).isOk = true) :
    disk.filesBelow dir (.directory entries listable) =
      disk.ownFiles dir entries ++
        (subdirectories dir entries).reverse.flatMap fun sub => disk.filesBelow sub.1 sub.2 := by
  rw [filesBelow, if_pos h, filesBelowAll_eq_flatMap]

theorem mem_filesBelow_iff (h : (disk.list dir).isOk = true) :
    path ∈ disk.filesBelow dir (.directory entries listable) ↔
      ∃ name node, (name, node) ∈ entries ∧
        (disk.entryKind path node = .file ∧ path = dir.join name ∨
          path ∈ disk.filesBelow (dir.join name) node) := by
  rw [filesBelow_of_listable h, List.mem_append, mem_ownFiles_iff, List.mem_flatMap]
  constructor
  · rintro (⟨name, node, hentry, hfile⟩ | ⟨sub, hsub, hpath⟩)
    · exact ⟨name, node, hentry, Or.inl hfile⟩
    · rcases mem_subdirectories_iff.1 (List.mem_reverse.1 hsub) with ⟨name, hentry, -, hjoin⟩
      exact ⟨name, sub.2, hentry, Or.inr (hjoin ▸ hpath)⟩
  · rintro ⟨name, node, hentry, hfile | hbelow⟩
    · exact Or.inl ⟨name, node, hentry, hfile⟩
    · refine Or.inr ⟨(dir.join name, node), List.mem_reverse.2 ?_, hbelow⟩
      refine mem_subdirectories_iff.2 ⟨name, hentry, ?_, rfl⟩
      cases hnode : node.isDirectory with
      | true => rfl
      | false =>
        rw [filesBelow_of_not_isDirectory hnode] at hbelow
        cases hbelow

/-! ## Membership -/

theorem filesBelow_subset_of_below (h : Node.Below root top above dir node)
    (habove : ∀ d ∈ above, (disk.list d).isOk = true) :
    disk.filesBelow dir node ⊆ disk.filesBelow root top := by
  induction h with
  | top => exact List.Subset.refl _
  | @entry above dir entries listable name node h hentry ih =>
    rcases List.forall_mem_cons.1 habove with ⟨hdir, hrest⟩
    intro path hpath
    exact ih hrest ((mem_filesBelow_iff hdir).2 ⟨name, node, hentry, Or.inr hpath⟩)

theorem exists_below_of_mem_filesBelow (hnode : node.WellNamed)
    (h : Node.Below root top above dir node) (habove : ∀ d ∈ above, (disk.list d).isOk = true)
    (hpath : path ∈ disk.filesBelow dir node) :
    ∃ above' node', Node.Below root top above' path node' ∧ above' ≠ [] ∧
      (∀ d ∈ above', (disk.list d).isOk = true) ∧ disk.entryKind path node' = .file := by
  -- The induction goes down the tree, and the way from the root grows with it.
  induction hnode generalizing above dir with
  | file | link =>
    rw [filesBelow_of_not_isDirectory rfl] at hpath
    cases hpath
  | directory listable distinct names nodes ih =>
    cases hlist : (disk.list dir).isOk with
    | false =>
      rw [filesBelow_of_unlistable hlist] at hpath
      cases hpath
    | true =>
      have hall : ∀ d ∈ dir :: above, (disk.list d).isOk = true :=
        List.forall_mem_cons.2 ⟨hlist, habove⟩
      rcases (mem_filesBelow_iff hlist).1 hpath with ⟨name, node, hentry, ⟨hkind, rfl⟩ | hbelow⟩
      · exact ⟨dir :: above, node, h.entry hentry, List.cons_ne_nil _ _, hall, hkind⟩
      · exact ih (name, node) hentry (h.entry hentry) hall hbelow

/-- The files below a directory are the entries with nothing but listable directories above them
that are neither directories nor links to directories. -/
theorem mem_filesBelow_iff_below (htop : top.WellNamed) :
    path ∈ disk.filesBelow root top ↔
      ∃ above node, Node.Below root top above path node ∧ above ≠ [] ∧
        (∀ d ∈ above, (disk.list d).isOk = true) ∧ disk.entryKind path node = .file := by
  constructor
  · exact exists_below_of_mem_filesBelow htop .top fun _ h => nomatch h
  · rintro ⟨above, node, hbelow, hne, habove, hkind⟩
    cases hbelow with
    | top => exact absurd rfl hne
    | @entry above dir entries listable name _ hbelow hentry =>
      -- The nearest directory has the file itself, and the others have what is below it.
      rcases List.forall_mem_cons.1 habove with ⟨hdir, hrest⟩
      refine filesBelow_subset_of_below hbelow hrest ((mem_filesBelow_iff hdir).2 ?_)
      exact ⟨name, node, hentry, Or.inl ⟨hkind, rfl⟩⟩

/-! ## No repetition -/

theorem isPrefix_of_mem_filesBelow (hnode : node.WellNamed)
    (hpath : path ∈ disk.filesBelow dir node) : dir.join [] <+: path := by
  induction hnode generalizing dir with
  | file | link =>
    rw [filesBelow_of_not_isDirectory rfl] at hpath
    cases hpath
  | directory listable distinct names nodes ih =>
    cases hlist : (disk.list dir).isOk with
    | false =>
      rw [filesBelow_of_unlistable hlist] at hpath
      cases hpath
    | true =>
      rcases (mem_filesBelow_iff hlist).1 hpath with ⟨name, node, hentry, ⟨-, rfl⟩ | hbelow⟩
      · exact Path.join_nil_isPrefix dir name
      · refine List.IsPrefix.trans ?_ (ih (name, node) hentry hbelow)
        rw [Path.join_join_nil dir (names _ hentry)]
        exact List.prefix_append _ _

theorem nameBelow_of_mem_filesBelow (hnode : node.WellNamed) (hname : Path.IsName name)
    (hpath : path ∈ disk.filesBelow (dir.join name) node) : Path.nameBelow dir path = name :=
  Path.nameBelow_of_isPrefix dir hname (isPrefix_of_mem_filesBelow hnode hpath)

theorem nodup_ownFiles (hdistinct : (entries.map (·.1)).Nodup) :
    (disk.ownFiles dir entries).Nodup := by
  unfold ownFiles List.Nodup at *
  rw [List.pairwise_map] at hdistinct ⊢
  refine (hdistinct.filter _).imp fun {a b} hne heq => hne ?_
  rw [Path.join_eq_append dir a.1, Path.join_eq_append dir b.1] at heq
  exact List.append_cancel_left heq

section directory

variable (hdistinct : (entries.map (·.1)).Nodup)
  (hnames : ∀ entry ∈ entries, Path.IsName entry.1)
  (hnodes : ∀ entry ∈ entries, entry.2.WellNamed)

include hdistinct hnames hnodes

/-- A path below two subdirectories would have the names of both behind the directory. -/
theorem pairwise_subdirectories (disk : Disk) (dir : Path) :
    (subdirectories dir entries).Pairwise fun sub other =>
      ∀ x ∈ disk.filesBelow sub.1 sub.2, ∀ y ∈ disk.filesBelow other.1 other.2, x ≠ y := by
  have hne := List.pairwise_map.1 hdistinct
  unfold subdirectories
  rw [List.pairwise_map]
  refine (hne.filter _).imp_of_mem ?_
  intro a b ha hb hab x hx y hy heq
  have ha := (List.mem_filter.1 ha).1
  have hb := (List.mem_filter.1 hb).1
  apply hab
  rw [← nameBelow_of_mem_filesBelow (hnodes a ha) (hnames a ha) hx, heq,
    nameBelow_of_mem_filesBelow (hnodes b hb) (hnames b hb) hy]

theorem ne_of_mem_ownFiles {sub : Path × Node} {x y : Path} (hx : x ∈ disk.ownFiles dir entries)
    (hsub : sub ∈ subdirectories dir entries) (hy : y ∈ disk.filesBelow sub.1 sub.2) : x ≠ y := by
  intro heq
  rcases mem_ownFiles_iff.1 hx with ⟨name, node, hentry, hkind, hx⟩
  rcases mem_subdirectories_iff.1 hsub with ⟨other, hother, hdirectory, hjoin⟩
  rw [hjoin] at hy
  have hxname : Path.nameBelow dir x = name := by
    rw [hx]
    exact Path.nameBelow_join dir (hnames _ hentry)
  have hyname : Path.nameBelow dir y = other :=
    nameBelow_of_mem_filesBelow (hnodes _ hother) (hnames _ hother) hy
  have hname : name = other := by rw [← hxname, heq, hyname]
  have hnode : some node = some sub.2 := by
    rw [← lookup_of_mem hdistinct hentry, hname, lookup_of_mem hdistinct hother]
  -- One entry would be a directory and not a directory.
  rw [entryKind_eq_file_iff, Option.some.inj hnode, hdirectory] at hkind
  cases hkind.1

end directory

/-- Every file is found once. -/
theorem nodup_filesBelow (hnode : node.WellNamed) (dir : Path) :
    (disk.filesBelow dir node).Nodup := by
  induction hnode generalizing dir with
  | file | link =>
    rw [filesBelow_of_not_isDirectory rfl]
    exact List.nodup_nil
  | @directory entries listable distinct names nodes ih =>
    cases hlist : (disk.list dir).isOk with
    | false =>
      rw [filesBelow_of_unlistable hlist]
      exact List.nodup_nil
    | true =>
      rw [filesBelow_of_listable hlist, List.nodup_append]
      refine ⟨nodup_ownFiles distinct, ?_, ?_⟩
      · unfold List.Nodup
        rw [List.pairwise_flatMap, List.pairwise_reverse]
        constructor
        · intro sub hsub
          rcases mem_subdirectories_iff.1 (List.mem_reverse.1 hsub) with ⟨name, hentry, -, -⟩
          exact ih (name, sub.2) hentry sub.1
        · -- The subdirectories come in the opposite order, which does not matter here.
          refine (pairwise_subdirectories distinct names nodes disk dir).imp ?_
          intro sub other hne x hx y hy
          exact (hne y hy x hx).symm
      · intro x hx y hy
        rcases List.mem_flatMap.1 hy with ⟨sub, hsub, hy⟩
        exact ne_of_mem_ownFiles distinct names nodes hx (List.mem_reverse.1 hsub) hy

end SourceGrade.Disk
