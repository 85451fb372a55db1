import SourceGrade.Proofs.Disk.FileSystem

/-!
# The order of a walk

A walk finds the files of a directory and then those below its subdirectories, the last one first. In
the list of all files those below one directory are therefore a block of their own
(`exists_filesBelow_eq`): no path of another file goes on from the path of the directory.
-/

namespace SourceGrade.Disk

variable {disk : Disk} {dir root path : Path} {top node : Node} {above : List Path}
  {entries : List (Bytes × Node)} {listable : Bool} {name : Bytes}

/-! ## Paths that go on from a directory -/

theorem join_nil_isPrefix_of_join (dir : Path) (hname : Path.IsName name)
    (hpath : (dir.join name).join [] <+: path) : dir.join [] <+: path := by
  rw [Path.join_join_nil dir hname] at hpath
  exact (List.prefix_append _ _).trans hpath

/-- The path of an entry ends with its name, which has no separator. -/
theorem not_isPrefix_join {other : Bytes} (dir : Path) (hname : Path.IsName name)
    (hother : Path.IsName other) : ¬ (dir.join name).join [] <+: dir.join other := by
  intro hpath
  rw [Path.join_join_nil dir hname, Path.join_eq_append dir other,
    List.prefix_append_right_inj] at hpath
  have hmem : Path.separator ∈ name ++ [Path.separator] := by simp
  exact hother.separator_notMem (hpath.subset hmem)

section directory

variable (hdistinct : (entries.map (·.1)).Nodup)
  (hnames : ∀ entry ∈ entries, Path.IsName entry.1)
  (hnodes : ∀ entry ∈ entries, entry.2.WellNamed)

include hnames in
theorem not_isPrefix_of_mem_ownFiles (hname : Path.IsName name)
    (hpath : path ∈ disk.ownFiles dir entries) : ¬ (dir.join name).join [] <+: path := by
  rcases mem_ownFiles_iff.1 hpath with ⟨other, node, hentry, -, rfl⟩
  exact not_isPrefix_join dir hname (hnames _ hentry)

include hnames hnodes in
/-- A path below one subdirectory does not go on from another one. -/
theorem not_isPrefix_of_mem_subdirectory {sub : Path × Node} (hname : Path.IsName name)
    (hsub : sub ∈ subdirectories dir entries) (hne : sub.1 ≠ dir.join name)
    (hpath : path ∈ disk.filesBelow sub.1 sub.2) : ¬ (dir.join name).join [] <+: path := by
  rcases mem_subdirectories_iff.1 hsub with ⟨other, hentry, -, hjoin⟩
  intro hprefix
  rw [hjoin] at hpath hne
  have hother : Path.nameBelow dir path = other :=
    nameBelow_of_mem_filesBelow (hnodes _ hentry) (hnames _ hentry) hpath
  rw [← hother, Path.nameBelow_of_isPrefix dir hname hprefix] at hne
  exact hne rfl

include hdistinct in
theorem nodup_subdirectories (dir : Path) : ((subdirectories dir entries).map (·.1)).Nodup := by
  unfold subdirectories List.Nodup at *
  rw [List.pairwise_map] at hdistinct
  rw [List.map_map, List.pairwise_map]
  refine (hdistinct.filter _).imp fun {a b} hne heq => hne ?_
  exact List.append_cancel_left (by rwa [← Path.join_eq_append, ← Path.join_eq_append])

end directory

/-! ## Blocks -/

theorem wellNamed_of_below (htop : top.WellNamed) (h : Node.Below root top above dir node) :
    node.WellNamed := by
  induction h with
  | top => exact htop
  | entry _ hentry ih =>
    cases ih with
    | directory _ _ _ nodes => exact nodes _ hentry

/-- Within the files below a directory those below a subdirectory are a block. -/
theorem exists_filesBelow_eq_of_mem (hdir : (Node.directory entries listable).WellNamed)
    (hlist : (disk.list dir).isOk = true) (hentry : (name, node) ∈ entries)
    (hnode : node.isDirectory = true) :
    ∃ before behind, disk.filesBelow dir (.directory entries listable) =
        before ++ disk.filesBelow (dir.join name) node ++ behind ∧
      (∀ path ∈ before, ¬ (dir.join name).join [] <+: path) ∧
      ∀ path ∈ behind, ¬ (dir.join name).join [] <+: path := by
  cases hdir with
  | directory _ distinct names nodes =>
    have hname := names _ hentry
    have hsub : (dir.join name, node) ∈ (subdirectories dir entries).reverse :=
      List.mem_reverse.2 (mem_subdirectories_iff.2 ⟨name, hentry, hnode, rfl⟩)
    have hnodup : ((subdirectories dir entries).reverse.map (·.1)).Nodup :=
      ((List.reverse_perm _).map _).nodup_iff.2 (nodup_subdirectories distinct dir)
    obtain ⟨front, back, hsplit⟩ := List.append_of_mem hsub
    rw [hsplit, List.map_append, List.map_cons, List.nodup_append, List.nodup_cons] at hnodup
    obtain ⟨-, ⟨hback, -⟩, hfront⟩ := hnodup
    have hothers (sub : Path × Node) (hmem : sub ∈ (subdirectories dir entries).reverse)
        (hne : sub.1 ≠ dir.join name) (path : Path) (hpath : path ∈ disk.filesBelow sub.1 sub.2) :
        ¬ (dir.join name).join [] <+: path :=
      not_isPrefix_of_mem_subdirectory names nodes hname (List.mem_reverse.1 hmem) hne hpath
    rw [hsplit] at hothers
    refine ⟨disk.ownFiles dir entries ++ front.flatMap fun sub => disk.filesBelow sub.1 sub.2,
      back.flatMap fun sub => disk.filesBelow sub.1 sub.2, ?_, ?_, ?_⟩
    · rw [filesBelow_of_listable hlist, hsplit, List.flatMap_append, List.flatMap_cons]
      simp only [List.append_assoc]
    · refine List.forall_mem_append.2
        ⟨fun path => not_isPrefix_of_mem_ownFiles names hname, fun path hpath => ?_⟩
      rcases List.mem_flatMap.1 hpath with ⟨sub, hmem, hpath⟩
      refine hothers sub (List.mem_append_left _ hmem) (fun heq => ?_) path hpath
      exact hfront sub.1 (List.mem_map_of_mem hmem) _ List.mem_cons_self heq
    · intro path hpath
      rcases List.mem_flatMap.1 hpath with ⟨sub, hmem, hpath⟩
      refine hothers sub (List.mem_append_right _ (List.mem_cons_of_mem _ hmem)) (fun heq => ?_)
        path hpath
      exact hback (List.mem_map.2 ⟨sub, hmem, heq⟩)

/-- The files below a directory are a block in the list of all files if all directories above it can
be listed. -/
theorem exists_filesBelow_eq (htop : top.WellNamed) (h : Node.Below root top above dir node)
    (hnode : node.isDirectory = true) (habove : ∀ d ∈ above, (disk.list d).isOk = true) :
    ∃ before behind, disk.filesBelow root top = before ++ disk.filesBelow dir node ++ behind ∧
      (∀ path ∈ before, ¬ dir.join [] <+: path) ∧ ∀ path ∈ behind, ¬ dir.join [] <+: path := by
  induction h with
  | top => exact ⟨[], [], (List.append_nil _).symm, nofun, nofun⟩
  | @entry above dir entries listable name node h hentry ih =>
    have hdir := wellNamed_of_below htop h
    rcases List.forall_mem_cons.1 habove with ⟨hlist, habove⟩
    obtain ⟨before, behind, heq, hbefore, hbehind⟩ := ih rfl habove
    obtain ⟨front, back, heq', hfront, hback⟩ :=
      exists_filesBelow_eq_of_mem hdir hlist hentry hnode
    cases hdir with
    | directory _ _ names _ =>
      -- What goes on from the subdirectory goes on from the directory.
      have hname := names _ hentry
      refine ⟨before ++ front, back ++ behind, ?_, ?_, ?_⟩
      · rw [heq, heq']
        simp only [List.append_assoc]
      · refine List.forall_mem_append.2 ⟨fun path hpath hprefix => ?_, hfront⟩
        exact hbefore path hpath (join_nil_isPrefix_of_join dir hname hprefix)
      · refine List.forall_mem_append.2 ⟨hback, fun path hpath hprefix => ?_⟩
        exact hbehind path hpath (join_nil_isPrefix_of_join dir hname hprefix)

/-- There are no files below a directory with one above it that cannot be listed. -/
theorem not_isPrefix_of_unlistable (htop : top.WellNamed) (h : Node.Below root top above dir node)
    (habove : ¬ ∀ d ∈ above, (disk.list d).isOk = true) (hpath : path ∈ disk.filesBelow root top) :
    ¬ dir.join [] <+: path := by
  induction h with
  | top => exact absurd nofun habove
  | @entry above dir entries listable name node h hentry ih =>
    have hdir := wellNamed_of_below htop h
    cases hdir with
    | directory _ _ names _ =>
      intro hprefix
      have hprefix := join_nil_isPrefix_of_join dir (names _ hentry) hprefix
      by_cases hrest : ∀ d ∈ above, (disk.list d).isOk = true
      · -- The nearest directory is the one that cannot be listed, and its block is empty.
        have hlist : (disk.list dir).isOk = false :=
          Bool.eq_false_iff.2 fun hlist => habove (List.forall_mem_cons.2 ⟨hlist, hrest⟩)
        obtain ⟨before, behind, heq, hbefore, hbehind⟩ := exists_filesBelow_eq htop h rfl hrest
        rw [heq, filesBelow_of_unlistable hlist, List.append_nil, List.mem_append] at hpath
        cases hpath with
        | inl hmem => exact hbefore path hmem hprefix
        | inr hmem => exact hbehind path hmem hprefix
      · exact ih hrest hprefix

/-- Listing the files below a root that can be listed finds, in this order, its own files and then
what is found below its subdirectories, the last one first; a subdirectory that cannot be listed
adds nothing. The files below any directory of the tree are a block, and it starts with those of the
directory itself. -/
theorem listFiles_preorder (disk : Disk) (root : Path) (hnames : disk.root.WellNamed)
    {listing : List Entry} (hlist : disk.list root = .ok listing) :
    ∃ top files, disk.find root = .ok top ∧ disk.fileSystem.listFiles root = .ok files ∧
      files = disk.filesBelow root top ∧
      (∀ dir entries listable, disk.filesBelow dir (.directory entries listable) =
        if (disk.list dir).isOk then
          disk.ownFiles dir entries ++
            (subdirectories dir entries).reverse.flatMap fun sub => disk.filesBelow sub.1 sub.2
        else []) ∧
      ∀ above dir entries listable, Node.Below root top above dir (.directory entries listable) →
        ∃ before block behind, files = before ++ block ++ behind ∧
          (block = if ∀ d ∈ above, (disk.list d).isOk = true then
            disk.filesBelow dir (.directory entries listable) else []) ∧
          (∀ path ∈ block, dir.join [] <+: path) ∧
          (∀ path ∈ before, ¬ dir.join [] <+: path) ∧ ∀ path ∈ behind, ¬ dir.join [] <+: path := by
  rcases files_run_visit hnames hlist (Nat.le_refl _) with ⟨top, hfind, htop, -, -, hfiles⟩
  refine ⟨top, _, hfind, ?_, rfl, fun dir entries listable => ?_,
    fun above dir entries listable hbelow => ?_⟩
  · rw [listFiles_of_list hlist, hfiles]
  · split
    next hdir => exact filesBelow_of_listable hdir
    next hdir => exact filesBelow_of_unlistable (Bool.eq_false_iff.2 hdir)
  · by_cases habove : ∀ d ∈ above, (disk.list d).isOk = true
    · obtain ⟨before, behind, heq, hbefore, hbehind⟩ := exists_filesBelow_eq htop hbelow rfl habove
      refine ⟨before, _, behind, heq, (if_pos habove).symm, fun path hpath => ?_, hbefore, hbehind⟩
      exact isPrefix_of_mem_filesBelow (wellNamed_of_below htop hbelow) hpath
    · refine ⟨disk.filesBelow root top, [], [], ?_, (if_neg habove).symm, nofun, fun path hpath => ?_,
        nofun⟩
      · rw [List.append_nil, List.append_nil]
      · exact not_isPrefix_of_unlistable htop hbelow habove hpath

/-- A directory `r` with a file `a`, a subdirectory `s` that has a file `x` and a subdirectory `u` with
a file `w`, another one, `z`, that cannot be listed, and a third one, `t`, with a file `v`. -/
def nestedDisk : Disk where
  root := .directory [([0x72], .directory
    [([0x73], .directory [([0x75], .directory [([0x77], .file [])] true), ([0x78], .file [])] true),
      ([0x61], .file []), ([0x7A], .directory [([0x79], .file [])] false),
      ([0x74], .directory [([0x76], .file [])] true)] true)] true
  workingDirectory := []

theorem nestedDisk_wellNamed : nestedDisk.root.WellNamed := by
  have hplanted : nestedDisk = empty.plantAll
      [([0x72, 0x2F, 0x73, 0x2F, 0x75, 0x2F, 0x77], .file []),
        ([0x72, 0x2F, 0x73, 0x2F, 0x78], .file []), ([0x72, 0x2F, 0x61], .file []),
        ([0x72, 0x2F, 0x7A], .directory [] false), ([0x72, 0x2F, 0x7A, 0x2F, 0x79], .file []),
        ([0x72, 0x2F, 0x74, 0x2F, 0x76], .file [])] := rfl
  rw [hplanted]
  apply plantAll_empty_wellNamed
  simp [Node.WellNamed.file, directory_nil_wellNamed]

/-- The files below `r/s` are the last two of four. -/
theorem listFiles_preorder_nested :
    nestedDisk.root.WellNamed ∧ (nestedDisk.list [0x72]).isOk = true ∧
    ∃ files, nestedDisk.fileSystem.listFiles [0x72] = .ok files ∧
      files = [[0x72, 0x2F, 0x61], [0x72, 0x2F, 0x74, 0x2F, 0x76], [0x72, 0x2F, 0x73, 0x2F, 0x78],
        [0x72, 0x2F, 0x73, 0x2F, 0x75, 0x2F, 0x77]] ∧
      ∃ before behind, files = before ++
          [[0x72, 0x2F, 0x73, 0x2F, 0x78], [0x72, 0x2F, 0x73, 0x2F, 0x75, 0x2F, 0x77]] ++ behind ∧
        (∀ path ∈ before, ¬ Path.join [0x72, 0x2F, 0x73] [] <+: path) ∧
        ∀ path ∈ behind, ¬ Path.join [0x72, 0x2F, 0x73] [] <+: path := by
  have hlist : nestedDisk.list [0x72] = .ok
      [⟨[0x73], .directory⟩, ⟨[0x61], .file⟩, ⟨[0x7A], .directory⟩, ⟨[0x74], .directory⟩] := rfl
  obtain ⟨top, files, hfind, hfiles, -, -, hblocks⟩ :=
    listFiles_preorder nestedDisk [0x72] nestedDisk_wellNamed hlist
  have hrun : nestedDisk.fileSystem.listFiles [0x72] = .ok
      [[0x72, 0x2F, 0x61], [0x72, 0x2F, 0x74, 0x2F, 0x76], [0x72, 0x2F, 0x73, 0x2F, 0x78],
        [0x72, 0x2F, 0x73, 0x2F, 0x75, 0x2F, 0x77]] := rfl
  refine ⟨nestedDisk_wellNamed, by rw [hlist]; rfl, files, hfiles, ?_, ?_⟩
  · rw [hfiles] at hrun
    injection hrun
  · cases hfind
    obtain ⟨before, block, behind, heq, hblock, -, hbefore, hbehind⟩ :=
      hblocks _ _ _ _ (Node.Below.top.entry (List.mem_cons_self : (([0x73] : Bytes), _) ∈ _))
    refine ⟨before, behind, ?_, hbefore, hbehind⟩
    rw [heq, hblock]
    rfl

end SourceGrade.Disk
