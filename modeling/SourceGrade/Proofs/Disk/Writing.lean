import SourceGrade.Disk.Change
import SourceGrade.Proofs.Disk.Contents
import SourceGrade.Proofs.Disk.Descent

/-!
# Writing a file

What a disk holds behind the writing of a file. The path that the file was written to leads to it
afterwards, over whatever links it led there before, and every other regular file is what it was,
also when the writing fails.
-/

namespace SourceGrade.Disk

open Node (Trail)

variable {before after disk : Disk} {t t' : Trail} {place start p : Place} {segments : List Bytes}
  {content : Bytes} {permissions : Permissions} {purpose : Purpose} {target : Target} {path : Path} {node : Node}
  {follow follow' : Place → List Bytes → Except OsError Target}

/-! ## One file written -/

/-- The one change from `before` to `after` is a file at `place`, where there was nothing or a file that
may be written and has the same permissions. -/
structure Written (before after : Disk) (place : Place) (content : Bytes)
    (permissions : Permissions) : Prop where
  written : after.node? place = some (.file content permissions)
  file_of_old : ∀ node, before.node? place = some node → ∃ old, node = .file old permissions
  writable_of_old : ∀ node, before.node? place = some node → permissions.writable = true
  elsewhere : ∀ p ≠ place, (after.node? p).map Node.bare = (before.node? p).map Node.bare

namespace Written

theorem exists_node? (hw : Written before after place content permissions) (hp : p ≠ place)
    (h : before.node? p = some node) : ∃ node', after.node? p = some node' ∧ node'.bare = node.bare := by
  have hbare := hw.elsewhere p hp
  rw [h, Option.map_some, Option.map_eq_some_iff] at hbare
  exact hbare

theorem directory (hw : Written before after place content permissions) {entries : List (Bytes × Node)}
    {listable : Bool} (h : before.node? p = some (.directory entries listable)) :
    ∃ entries', after.node? p = some (.directory entries' listable) := by
  have hp : p ≠ place := by
    rintro rfl
    obtain ⟨old, hold⟩ := hw.file_of_old _ h
    cases hold
  obtain ⟨node', hnode', hbare⟩ := hw.exists_node? hp h
  obtain ⟨entries', rfl⟩ := Node.exists_directory_of_bare_eq hbare
  exact ⟨entries', hnode'⟩

theorem link (hw : Written before after place content permissions) {path : Path}
    (h : before.node? p = some (.link path)) : after.node? p = some (.link path) := by
  have hp : p ≠ place := by
    rintro rfl
    obtain ⟨old, hold⟩ := hw.file_of_old _ h
    cases hold
  obtain ⟨node', hnode', hbare⟩ := hw.exists_node? hp h
  exact Node.eq_link_of_bare_eq hbare ▸ hnode'

theorem not_link (hw : Written before after place content permissions) (h : before.node? p = some node)
    (hlink : ∀ path, node ≠ .link path) :
    ∃ node', after.node? p = some node' ∧ ∀ path, node' ≠ .link path := by
  by_cases hp : p = place
  · exact ⟨.file content permissions, hp ▸ hw.written, nofun⟩
  · obtain ⟨node', hnode', hbare⟩ := hw.exists_node? hp h
    refine ⟨node', hnode', ?_⟩
    rintro path rfl
    exact hlink path (Node.eq_link_of_bare_eq hbare.symm)

/-- Segments that led to the place of the file lead there again, from the same place. -/
theorem descend (hw : Written before after place content permissions)
    (hfollow : ∀ start segments, follow start segments = .ok target →
      follow' start segments = .ok (.found place))
    (htarget : target.place = place) (ht : t.StartsAt before.root) (ht' : t'.StartsAt after.root)
    (hplace : t'.place = t.place) (h : Disk.descend purpose follow t segments = .ok target) :
    Disk.descend .use follow' t' segments = .ok (.found place) := by
  induction segments generalizing t t' with
  | nil =>
    cases h
    rw [Disk.descend, hplace]
    exact congrArg (Except.ok ∘ Target.found) htarget
  | cons segment rest ih =>
    obtain ⟨entries, listable, hdirectory, hstep⟩ := exists_descentStep h
    obtain ⟨entries', hdirectory'⟩ := hw.directory ((node?_place ht).trans (congrArg some hdirectory))
    rw [← hplace, node?_place ht', Option.some.injEq] at hdirectory'
    have hentry (name : Bytes) : before.node? (t.place ++ [name]) = entries.lookup name :=
      Node.at?_entry ((node?_place ht).trans (congrArg some hdirectory)) name
    have hentry' (name : Bytes) : after.node? (t.place ++ [name]) = entries'.lookup name :=
      hplace ▸ Node.at?_entry ((node?_place ht').trans (congrArg some hdirectory')) name
    cases hstep with
    | silent hname hparent h =>
      rw [descend_silent hdirectory' hname hparent]
      exact ih ht ht' hplace h
    | parent hparent h =>
      rw [descend_parent hdirectory' hparent]
      refine ih ht.parent ht'.parent ?_ h
      rw [Trail.place_parent, Trail.place_parent, hplace]
    | @down name node hname hshort hlookup hlink h =>
      obtain ⟨node', hnode', hlink'⟩ := hw.not_link ((hentry name).trans hlookup) hlink
      rw [hentry'] at hnode'
      rw [descend_down hdirectory' hname rest hshort hlink' hnode']
      refine ih (ht.down hdirectory hlookup) (ht'.down hdirectory' hnode') ?_ h
      rw [Trail.place_down, Trail.place_down, hplace]
    | @link name path hname hshort hlookup h =>
      have hlookup' := (hentry' name).symm.trans (hw.link ((hentry name).trans hlookup))
      rw [descend_link hdirectory' hname rest hshort hlookup', hplace]
      exact hfollow _ _ h
    | @missing name hname hshort hlookup hrest hmissing =>
      -- The entry that was missing is the file now.
      have hhere : t.place ++ [name] = place := by
        rw [← htarget, hmissing]
        rfl
      have hlookup' := (hentry' name).symm.trans (hhere ▸ hw.written)
      have hfile (path : Path) : Node.file content permissions ≠ .link path := by rintro ⟨⟩
      rw [descend_down hdirectory' hname rest hshort hfile hlookup', hrest, Disk.descend,
        Trail.place_down, hplace, hhere]

theorem descendFrom (hw : Written before after place content permissions)
    (hfollow : ∀ start segments, follow start segments = .ok target →
      follow' start segments = .ok (.found place))
    (htarget : target.place = place)
    (h : before.descendFrom purpose follow start segments = .ok target) :
    after.descendFrom .use follow' start segments = .ok (.found place) := by
  unfold Disk.descendFrom at h ⊢
  cases htrail : before.trail? start with
  | none =>
    rw [htrail] at h
    cases h
  | some t =>
    rw [htrail] at h
    have hnode : before.node? start = some t.node := by
      rw [← map_node_trail?, htrail]
      rfl
    have hnode' : ∃ node', after.node? start = some node' := by
      by_cases hp : start = place
      · exact ⟨_, hp ▸ hw.written⟩
      · obtain ⟨node', hnode', -⟩ := hw.exists_node? hp hnode
        exact ⟨node', hnode'⟩
    obtain ⟨node', hnode'⟩ := hnode'
    rw [← map_node_trail?, Option.map_eq_some_iff] at hnode'
    obtain ⟨t', htrail', -⟩ := hnode'
    rw [htrail']
    refine hw.descend hfollow htarget (startsAt_of_trail? htrail) (startsAt_of_trail? htrail') ?_ h
    rw [place_of_trail? htrail, place_of_trail? htrail']

theorem resolve (hw : Written before after place content permissions) (htarget : target.place = place)
    {links : Nat} (h : before.resolve purpose links start segments = .ok target) :
    after.resolve .use links start segments = .ok (.found place) := by
  induction links generalizing start segments with
  | zero =>
    rw [Disk.resolve] at h
    refine hw.descendFrom ?_ htarget h
    intro _ _ hrefused
    cases hrefused
  | succ links ih => exact hw.descendFrom (fun _ _ => ih) htarget h

/-- The path of the file leads to it. -/
theorem target_eq (hw : Written before after place content permissions)
    (hdirectory : after.workingDirectory = before.workingDirectory)
    (htarget : target.place = place) (h : before.target purpose path = .ok target) :
    after.target .use path = .ok (.found place) := by
  obtain ⟨hcheck, hresolve⟩ := target_eq_ok_iff.1 h
  rw [target_eq_ok_iff, hdirectory]
  exact ⟨hcheck, hw.resolve htarget hresolve⟩

end Written

/-! ## Putting a leaf -/

theorem map_bare_node?_put (hnode : node.IsLeaf)
    (hold : ∀ old, disk.node? place = some old → old.IsLeaf) (hp : p ≠ place) :
    ((disk.put place node).node? p).map Node.bare = (disk.node? p).map Node.bare := by
  refine Node.map_bare_at?_put hnode (fun name rest => ?_) hp
  rw [Node.at?_append]
  cases h : disk.root.at? place with
  | none => rfl
  | some old => exact hold old h name rest

theorem written_put
    (hold : ∀ node, disk.node? place = some node → ∃ old, node = .file old permissions)
    (hwritable : ∀ node, disk.node? place = some node → permissions.writable = true)
    (hput : (disk.put place (.file content permissions)).node? place =
      some (.file content permissions)) :
    Written disk (disk.put place (.file content permissions)) place content permissions := by
  refine ⟨hput, hold, hwritable, fun p hp => map_bare_node?_put (Node.isLeaf_file _ _) ?_ hp⟩
  intro node hnode
  obtain ⟨old, rfl⟩ := hold node hnode
  exact Node.isLeaf_file old permissions

/-! ## Regular files -/

/-- The disks have the same regular files, with the same contents and permissions. -/
def SameFiles (before after : Disk) : Prop :=
  ∀ place content permissions,
    after.node? place = some (.file content permissions) ↔
      before.node? place = some (.file content permissions)

theorem SameFiles.refl (disk : Disk) : SameFiles disk disk := fun _ _ _ => Iff.rfl

theorem SameFiles.trans {between : Disk} (h : SameFiles before between)
    (h' : SameFiles between after) : SameFiles before after :=
  fun place content permissions => (h' place content permissions).trans (h place content permissions)

theorem eq_file_iff_of_map_bare {found found' : Option Node}
    (h : found.map Node.bare = found'.map Node.bare) :
    found = some (.file content permissions) ↔ found' = some (.file content permissions) := by
  cases found with
  | none =>
    cases found' with
    | none => exact Iff.rfl
    | some => cases h
  | some node =>
    cases found' with
    | none => cases h
    | some node' =>
      rw [Option.some.injEq, Option.some.injEq]
      exact Node.eq_file_of_bare_eq (Option.some.inj h)

/-! ## Creating directories -/

/-- A directory put where nothing was is no file, and changes none. -/
theorem sameFiles_put_directory (hnone : disk.node? place = none) :
    SameFiles disk (disk.put place (.directory [] true)) := by
  intro p content permissions
  by_cases hp : p = place
  · rw [hp, hnone]
    refine ⟨fun h => ?_, nofun⟩
    rcases Node.at?_put_eq_or (.directory [] true) place disk.root with hput | hput
    · cases hput.symm.trans h
    · cases hput.symm.trans h
  · refine eq_file_iff_of_map_bare (map_bare_node?_put (Node.isLeaf_directory_nil true) ?_ hp)
    intro old hold
    rw [hnone] at hold
    cases hold

theorem mem_of_splitLast? {before : List Bytes} {last : Bytes}
    (h : splitLast? segments = some (before, last)) : last ∈ segments := by
  unfold splitLast? at h
  split at h
  next => cases h
  next last before hlast =>
    cases h
    have hmem : last ∈ segments.reverse.dropWhile (· = []) := by
      rw [hlast]
      exact List.mem_cons_self
    exact List.mem_reverse.1 ((List.dropWhile_sublist _).subset hmem)

/-- The new directory has the name of a segment of the path. -/
theorem createDirectory_eq_ok (h : disk.createDirectory path = .ok after) :
    ∃ parent segment name, segment ∈ path.segments ∧
      Path.Component.ofSegment? segment = some (.name name) ∧
      disk.node? (parent ++ [name]) = none ∧
      after = disk.put (parent ++ [name]) (.directory [] true) := by
  unfold createDirectory at h
  cases hcheck : check path with
  | error e =>
    rw [hcheck] at h
    cases h
  | ok =>
    simp only [hcheck, bind, Except.bind] at h
    split at h
    next => cases h
    next before last hlast =>
    split at h
    next => cases h
    next parent hparent =>
    split at h
    next name hname =>
      split at h
      next => cases h
      next =>
      split at h
      next => cases h
      next hnone =>
        cases h
        exact ⟨parent, last, name, mem_of_splitLast? hlast, hname,
          Option.not_isSome_iff_eq_none.1 hnone, rfl⟩
    next => cases h

/-- What is true of a disk, and stays so whenever a directory is created, is true behind the creation of
directories, also when not all of them can be created. -/
theorem createDirectories_induction {P : Disk → Prop}
    (hstep : ∀ {disk after : Disk} {path : Path}, disk.createDirectory path = .ok after →
      P disk → P after)
    (h : P disk) (paths : List Path) : P (disk.createDirectories paths).disk := by
  induction paths with
  | nil => exact h
  | cons path parents ih =>
    rw [createDirectories]
    split
    next => exact h
    next =>
    split
    next created hcreated => exact hstep hcreated h
    next =>
      dsimp only
      split
      next => exact ih
      next =>
      split
      next created hcreated => exact hstep hcreated ih
      next => split <;> exact ih
    next => split <;> exact h

theorem sameFiles_createDirectory (h : disk.createDirectory path = .ok after) :
    SameFiles disk after := by
  obtain ⟨parent, segment, name, -, -, hnone, rfl⟩ := createDirectory_eq_ok h
  exact sameFiles_put_directory hnone

/-- Directories are created without a change to any file. -/
theorem sameFiles_createDirectories (disk : Disk) (paths : List Path) :
    SameFiles disk (disk.createDirectories paths).disk :=
  createDirectories_induction (fun hcreated hsame => hsame.trans (sameFiles_createDirectory hcreated))
    (.refl disk) paths

/-! ## Writing -/

/-- A file is written where its path leads to, or where a new entry of a directory is. -/
theorem written_of_writeFile (h : disk.writeFile path content = .ok after) :
    ∃ place permissions, Written disk after place content permissions ∧
      after.target .use path = .ok (.found place) := by
  unfold writeFile at h
  cases htarget : disk.target .writing path with
  | error e =>
    rw [htarget] at h
    cases h
  | ok target =>
    rw [htarget] at h
    cases target with
    | missing parent name =>
      cases h
      obtain ⟨entries, listable, hparent, hentry⟩ := vacant_of_resolve (target_eq_ok_iff.1 htarget).2
      have hnone : disk.node? (parent ++ [name]) = none :=
        (Node.at?_entry hparent name).trans hentry
      have hw : Written disk (disk.put (parent ++ [name]) (.file content)) (parent ++ [name])
          content {} := by
        refine written_put ?_ (fun _ _ => rfl) (Node.at?_put_entry hparent name)
        intro node hnode
        rw [hnone] at hnode
        cases hnode
      exact ⟨_, _, hw, hw.target_eq rfl rfl htarget⟩
    | found place =>
      simp only [bind, Except.bind] at h
      split at h
      next old permissions hold =>
        split at h
        next hwritable =>
          cases h
          have hw : Written disk (disk.put place (.file content permissions)) place content
              permissions := by
            refine written_put (fun node hnode => ⟨old, ?_⟩) (fun _ _ => hwritable)
              (Node.at?_put hold)
            exact Option.some.inj (hnode.symm.trans hold)
          exact ⟨_, _, hw, hw.target_eq rfl rfl htarget⟩
        next => cases h
      next => cases h

/-- A report is not written, behind the creation of directories, or it is the last change. -/
theorem writeReport_cases (disk : Disk) (path : Path) (content : Bytes) :
    (∃ e, disk.writeReport path content =
      { disk := (disk.createDirectories path.parents).disk, error := some e }) ∨
    ∃ after, (disk.createDirectories path.parents).disk.writeFile path content = .ok after ∧
      disk.writeReport path content = { disk := after } := by
  unfold writeReport
  dsimp only
  split
  next hfailed =>
    obtain ⟨e, he⟩ := Option.isSome_iff_exists.1 hfailed
    exact Or.inl ⟨e, he ▸ rfl⟩
  next =>
  split
  next after hwrite => exact Or.inr ⟨after, hwrite, rfl⟩
  next e _ => exact Or.inl ⟨e, rfl⟩

/-- A report that cannot be written changes no file. -/
theorem sameFiles_writeReport {e : IoError} (h : (disk.writeReport path content).error = some e) :
    SameFiles disk (disk.writeReport path content).disk := by
  rcases writeReport_cases disk path content with ⟨e', hwrite⟩ | ⟨after, -, hwrite⟩
  · rw [hwrite]
    exact sameFiles_createDirectories disk path.parents
  · rw [hwrite] at h
    cases h

/-- A report that can be written is the file that its path leads to then, and no other file is
changed. A file that was there may be written and keeps its permissions. -/
theorem exists_of_writeReport (h : (disk.writeReport path content).error = none) :
    ∃ place permissions,
      (disk.writeReport path content).disk.target .use path = .ok (.found place) ∧
      (disk.writeReport path content).disk.node? place = some (.file content permissions) ∧
      (∀ old oldPermissions, disk.node? place = some (.file old oldPermissions) →
        oldPermissions = permissions ∧ permissions.writable = true) ∧
      ∀ p ≠ place, ∀ other permissions,
        (disk.writeReport path content).disk.node? p = some (.file other permissions) ↔
          disk.node? p = some (.file other permissions) := by
  rcases writeReport_cases disk path content with ⟨e, hwrite⟩ | ⟨after, hok, hwrite⟩
  · rw [hwrite] at h
    cases h
  · rw [hwrite]
    obtain ⟨place, permissions, hw, htarget⟩ := written_of_writeFile hok
    have hprepared := sameFiles_createDirectories disk path.parents
    refine ⟨place, permissions, htarget, hw.written, fun old oldPermissions hold => ?_,
      fun p hp other permissions => ?_⟩
    · have hfile := (hprepared place old oldPermissions).2 hold
      obtain ⟨_, heq⟩ := hw.file_of_old _ hfile
      cases heq
      exact ⟨rfl, hw.writable_of_old _ hfile⟩
    · exact (eq_file_iff_of_map_bare (hw.elsewhere p hp)).trans
        (hprepared p other permissions)

end SourceGrade.Disk
