import SourceGrade.Proofs.Disk.FilesBelow

/-!
# The walk of a disk

The directories that a walk has still to list stand for the files below them. One step moves the
files of one directory from there to the events, and no step is left to do when each directory of the
tree has had one.
-/

namespace SourceGrade

namespace Walk

theorem files_append (events more : List WalkEvent) :
    files (events ++ more) = files events ++ files more :=
  List.filterMap_append

theorem files_passOver (walk : Walk) (dir : Path) (e : IoError) :
    files (walk.passOver dir e).events = files walk.events := by
  unfold passOver
  rw [files_append]
  exact List.append_nil _

end Walk

namespace Disk

variable {disk : Disk} {dir root path : Path} {top node : Node} {listing : List Entry}
  {entries : List (Bytes × Node)} {listable : Bool}

/-! ## Events of a listing -/

theorem files_events_listing (disk : Disk) (dir : Path) (entries : List (Bytes × Node)) :
    Walk.files ((entries.map (disk.entryOf dir)).filterMap (Walk.event? dir)) =
      disk.ownFiles dir entries := by
  unfold ownFiles
  induction entries with
  | nil => rfl
  | cons entry rest ih =>
    rw [List.map_cons]
    cases hkind : disk.entryKind (dir.join entry.1) entry.2 with
    | file =>
      have hevent : Walk.event? dir (disk.entryOf dir entry) = some (.file (dir.join entry.1)) := by
        unfold Walk.event? entryOf
        rw [hkind]
      rw [List.filterMap_cons_some hevent, List.filter_cons_of_pos (by exact decide_eq_true hkind),
        List.map_cons, ← ih]
      rfl
    | directory =>
      have hevent : Walk.event? dir (disk.entryOf dir entry) = none := by
        unfold Walk.event? entryOf
        rw [hkind]
      rw [List.filterMap_cons_none hevent, List.filter_cons_of_neg, ih]
      rw [hkind]
      decide
    | linkedDirectory =>
      have hevent : Walk.event? dir (disk.entryOf dir entry) =
          some (.linkedDirectory (dir.join entry.1)) := by
        unfold Walk.event? entryOf
        rw [hkind]
      rw [List.filterMap_cons_some hevent, List.filter_cons_of_neg, ← ih]
      · rfl
      · rw [hkind]
        decide

theorem subdirectories_listing (disk : Disk) (dir : Path) (entries : List (Bytes × Node)) :
    (entries.map (disk.entryOf dir)).filterMap (Walk.subdirectory? dir) =
      (subdirectories dir entries).map (·.1) := by
  unfold subdirectories
  induction entries with
  | nil => rfl
  | cons entry rest ih =>
    rw [List.map_cons]
    cases hnode : entry.2.isDirectory with
    | true =>
      have hsub : Walk.subdirectory? dir (disk.entryOf dir entry) = some (dir.join entry.1) := by
        unfold Walk.subdirectory? entryOf
        rw [(entryKind_eq_directory_iff disk _ _).2 hnode]
      rw [List.filterMap_cons_some hsub, ih, List.filter_cons_of_pos (by exact hnode),
        List.map_cons, List.map_cons]
    | false =>
      have hsub : Walk.subdirectory? dir (disk.entryOf dir entry) = none := by
        unfold Walk.subdirectory?
        split
        next hkind =>
          rw [(entryKind_eq_directory_iff disk _ _).1 hkind] at hnode
          cases hnode
        next => rfl
      rw [List.filterMap_cons_none hsub, ih, List.filter_cons_of_neg]
      rw [hnode]
      exact Bool.false_ne_true

/-! ## Runs -/

/-- A directory of the tree that its path leads to, if that leads anywhere. -/
structure Awaits (disk : Disk) (sub : Path × Node) : Prop where
  isDirectory : sub.2.isDirectory = true
  wellNamed : sub.2.WellNamed
  eq_of_find : ∀ node, disk.find sub.1 = .ok node → node = sub.2

theorem Awaits.directoryCount_pos {sub : Path × Node} (h : Awaits disk sub) :
    1 ≤ sub.2.directoryCount := by
  rcases sub with ⟨dir, node⟩
  cases node with
  | file | link => exact nomatch h.isDirectory
  | directory =>
    rw [Node.directoryCount]
    exact Nat.le_add_right 1 _

theorem Awaits.subdirectory {sub : Path × Node}
    (hfind : disk.find dir = .ok (.directory entries listable))
    (hwellNamed : (Node.directory entries listable).WellNamed)
    (hsub : sub ∈ subdirectories dir entries) : Awaits disk sub := by
  rcases mem_subdirectories_iff.1 hsub with ⟨name, hentry, hdirectory, hpath⟩
  cases hwellNamed with
  | directory _ distinct names nodes =>
    refine ⟨hdirectory, nodes (name, sub.2) hentry, fun node hnode => ?_⟩
    rw [hpath] at hnode
    have hlookup := lookup_of_mem distinct hentry
    have hlink : ∀ target, sub.2 ≠ .link target := by
      intro target heq
      rw [heq] at hdirectory
      cases hdirectory
    exact ((find_join_eq_ok_iff (names _ hentry) hlookup hlink hfind).1 hnode).2.2

/-- What one step does to the directories that are waiting and to the files. -/
theorem Awaits.visit {waiting : List (Path × Node)} {walk : Walk}
    (h : Awaits disk (dir, node)) (hlist : disk.list dir = .ok listing)
    (hpending : walk.pending = waiting.map (·.1)) :
    ∃ subs, (∀ sub ∈ subs, Awaits disk sub) ∧
      Node.directoryCounts subs + 1 = node.directoryCount ∧
      (walk.visit dir listing).pending = (subs ++ waiting).map (·.1) ∧
      Walk.files (walk.visit dir listing).events ++
          subs.flatMap (fun sub => disk.filesBelow sub.1 sub.2) =
        Walk.files walk.events ++ disk.filesBelow dir node := by
  rcases list_eq_ok_iff.1 hlist with ⟨entries, hfind, hlisting⟩
  -- What is listed is the node that the path stands for.
  obtain rfl := h.eq_of_find _ hfind
  have hok : (disk.list dir).isOk = true := by
    rw [hlist]
    rfl
  refine ⟨(subdirectories dir entries).reverse, ?_, ?_, ?_, ?_⟩
  · intro sub hsub
    exact Awaits.subdirectory hfind h.wellNamed (List.mem_reverse.1 hsub)
  · rw [Node.directoryCounts_reverse, directoryCounts_subdirectories, Node.directoryCount,
      Nat.add_comm]
  · unfold Walk.visit
    rw [hlisting, subdirectories_listing, hpending, List.map_append, List.map_reverse]
  · unfold Walk.visit
    rw [hlisting, Walk.files_append, files_events_listing, filesBelow_of_listable hok,
      List.append_assoc]

/-- A run comes to an end, and it finds the files below the directories that were waiting. -/
theorem files_run {fuel : Nat} {walk : Walk} {waiting : List (Path × Node)}
    (hpending : walk.pending = waiting.map (·.1)) (hawaits : ∀ sub ∈ waiting, Awaits disk sub)
    (hfuel : Node.directoryCounts waiting ≤ fuel) :
    (Walk.run disk.list fuel walk).pending = [] ∧
      Walk.files (Walk.run disk.list fuel walk).events =
        Walk.files walk.events ++ waiting.flatMap fun sub => disk.filesBelow sub.1 sub.2 := by
  -- The directories that wait, counted with all below them, are one less after each step.
  induction fuel generalizing walk waiting with
  | zero =>
    cases waiting with
    | nil => exact ⟨hpending, (List.append_nil _).symm⟩
    | cons sub rest =>
      -- A waiting directory counts itself, so that some fuel would be left.
      have hcount := (hawaits sub List.mem_cons_self).directoryCount_pos
      rw [Node.directoryCounts] at hfuel
      omega
  | succ fuel ih =>
    rw [Walk.run, hpending]
    cases waiting with
    | nil => exact ⟨hpending, (List.append_nil _).symm⟩
    | cons sub rest =>
      rcases List.forall_mem_cons.1 hawaits with ⟨hsub, hrest⟩
      have hcount := hsub.directoryCount_pos
      rw [Node.directoryCounts] at hfuel
      rw [List.flatMap_cons]
      simp only [List.map_cons]
      cases hlist : disk.list sub.1 with
      | error e =>
        have hnone : disk.filesBelow sub.1 sub.2 = [] :=
          filesBelow_of_unlistable (by rw [hlist]; rfl)
        have hpassed : (({ walk with pending := rest.map (·.1) } : Walk).passOver sub.1 e).pending =
          rest.map (·.1) := rfl
        rcases ih hpassed hrest (by omega) with ⟨hend, hfiles⟩
        rw [Walk.files_passOver] at hfiles
        rw [hnone, List.nil_append]
        exact ⟨hend, hfiles⟩
      | ok listing =>
        have hpopped : ({ walk with pending := rest.map (·.1) } : Walk).pending =
          rest.map (·.1) := rfl
        rcases hsub.visit hlist hpopped with ⟨subs, hsubs, hsum, hwaiting, hstep⟩
        have hall : ∀ other ∈ subs ++ rest, Awaits disk other :=
          List.forall_mem_append.2 ⟨hsubs, hrest⟩
        obtain ⟨hend, hfiles⟩ := ih hwaiting hall (by
          rw [Node.directoryCounts_append]
          omega)
        rw [List.flatMap_append, ← List.append_assoc, hstep, List.append_assoc] at hfiles
        exact ⟨hend, hfiles⟩

end Disk

end SourceGrade
