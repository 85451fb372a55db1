import SourceGrade.Proofs.Disk.Tree
import SourceGrade.Proofs.Disk.Writing

/-!
# Names of planted trees

A tree keeps its names in order when nodes are planted in it, and when directories and files are created:
an entry that is new has a segment of a path as its name, and every other entry keeps its own.
-/

namespace SourceGrade

/-! ## Segments -/

theorem separator_notMem_of_mem_pieces {α : Type} [DecidableEq α] {separator : α}
    {list part : List α} (hpart : part ∈ pieces separator list) : separator ∉ part := by
  induction list generalizing part with
  | nil =>
    rw [pieces, List.mem_singleton] at hpart
    rw [hpart]
    exact List.not_mem_nil
  | cons a rest ih =>
    rw [pieces] at hpart
    by_cases ha : a = separator
    · rw [if_pos ha] at hpart
      cases List.mem_cons.1 hpart with
      | inl h =>
        rw [h]
        exact List.not_mem_nil
      | inr h => exact ih h
    · rw [if_neg ha] at hpart
      cases hrest : pieces separator rest with
      | nil => exact absurd hrest (pieces_ne_nil separator rest)
      | cons first others =>
        rw [hrest] at hpart ih
        cases List.mem_cons.1 hpart with
        | inl h =>
          rw [h, List.mem_cons]
          exact fun hmem => hmem.elim (fun heq => ha heq.symm) (ih List.mem_cons_self)
        | inr h => exact ih (List.mem_cons_of_mem first h)

/-! ## Entries -/

namespace Node

variable {tree node : Node} {entries : List (Bytes × Node)} {listable : Bool} {name : Bytes}
  {place : Place}

theorem mem_setEntry {entry : Bytes × Node} (h : entry ∈ setEntry name node entries) :
    entry = (name, node) ∨ entry ∈ entries := by
  induction entries with
  | nil => exact Or.inl (List.mem_singleton.1 h)
  | cons first rest ih =>
    rw [setEntry] at h
    by_cases hfirst : first.1 = name
    · rw [if_pos hfirst] at h
      exact (List.mem_cons.1 h).imp id (List.mem_cons_of_mem first)
    · rw [if_neg hfirst] at h
      cases List.mem_cons.1 h with
      | inl heq => exact Or.inr (heq ▸ List.mem_cons_self)
      | inr hrest => exact (ih hrest).imp id (List.mem_cons_of_mem first)

theorem nodup_setEntry (name : Bytes) (node : Node) (hdistinct : (entries.map (·.1)).Nodup) :
    ((setEntry name node entries).map (·.1)).Nodup := by
  induction entries with
  | nil => exact List.pairwise_singleton _ _
  | cons first rest ih =>
    rw [List.map_cons, List.nodup_cons] at hdistinct
    rw [Node.setEntry]
    by_cases hfirst : first.1 = name
    · rw [if_pos hfirst, List.map_cons, List.nodup_cons, ← hfirst]
      exact hdistinct
    · rw [if_neg hfirst, List.map_cons, List.nodup_cons]
      refine ⟨?_, ih hdistinct.2⟩
      intro hmem
      rcases List.mem_map.1 hmem with ⟨entry, hentry, heq⟩
      cases mem_setEntry hentry with
      | inl h =>
        rw [h] at heq
        exact hfirst heq.symm
      | inr h => exact hdistinct.1 (List.mem_map.2 ⟨entry, h, heq⟩)

theorem WellNamed.setEntry (htree : (Node.directory entries listable).WellNamed)
    (hnode : node.WellNamed) (hname : Path.IsName name) :
    (Node.directory (setEntry name node entries) listable).WellNamed := by
  cases htree with
  | directory _ distinct names nodes =>
    refine .directory listable ?_ ?_ ?_
    · exact nodup_setEntry name node distinct
    -- An entry is the one that was set, or an old one.
    · intro entry hentry
      cases mem_setEntry hentry with
      | inl heq => exact heq ▸ hname
      | inr hmem => exact names entry hmem
    · intro entry hentry
      cases mem_setEntry hentry with
      | inl heq => exact heq ▸ hnode
      | inr hmem => exact nodes entry hmem

/-- Only a new entry, which is at the end of the place, needs a name. -/
theorem WellNamed.put (htree : tree.WellNamed) (hnode : node.WellNamed)
    (hplace : tree.at? place = none → ∀ name, place.getLast? = some name → Path.IsName name) :
    (Node.put node place tree).WellNamed := by
  induction place generalizing tree with
  | nil => exact hnode
  | cons name rest ih =>
    cases htree with
    | file content permissions => exact .file content permissions
    | link target => exact .link target
    | @directory entries listable distinct names nodes =>
      have htree := WellNamed.directory listable distinct names nodes
      rw [Node.put]
      cases hentry : entries.lookup name with
      | some child =>
        have hmem := mem_of_lookup hentry
        refine htree.setEntry (ih (nodes _ hmem) fun hnone last hlast => ?_) (names _ hmem)
        apply hplace
        · rw [at?, hentry]
          exact hnone
        · rw [List.getLast?_cons_of_ne_nil, hlast]
          rintro rfl
          cases hlast
      | none =>
        -- Only the last directory of the place can get a new entry.
        by_cases hrest : rest = []
        · simp only [if_pos hrest]
          refine htree.setEntry hnode (hplace ?_ name ?_)
          · rw [at?, hentry]
            rfl
          · rw [hrest]
            rfl
        · simp only [if_neg hrest]
          exact htree

end Node

/-! ## Missing targets -/

namespace Disk

open Node (Trail)

variable {disk : Disk} {place p parent : Place} {segments : List Bytes} {name : Bytes}
  {node : Node} {links : Nat} {purpose : Purpose} {path : Path} {content : Bytes} {after : Disk}

theorem node?_of_resolve (h : disk.resolve .use links place segments = .ok (.found p)) :
    ∃ node, disk.root.at? p = some node := by
  rcases resolve_append h with ⟨t, left, ht, rfl, -⟩
  exact ⟨t.node, node?_place ht⟩

/-- Only a segment of the path or of a link on the way can be missing. -/
theorem isName_of_descend_missing {t : Trail} {follow : Place → List Bytes → Except OsError Target}
    (hfollow : ∀ place segments, (∀ segment ∈ segments, Path.separator ∉ segment) →
      follow place segments = .ok (.missing parent name) → Path.IsName name)
    (hsegments : ∀ segment ∈ segments, Path.separator ∉ segment)
    (h : descend purpose follow t segments = .ok (.missing parent name)) : Path.IsName name := by
  induction segments generalizing t with
  | nil => cases h
  | cons segment segments ih =>
    obtain ⟨hsegment, hrest⟩ := List.forall_mem_cons.1 hsegments
    obtain ⟨entries, listable, -, hstep⟩ := exists_descentStep h
    cases hstep with
    | silent _ _ h => exact ih hrest h
    | parent _ h => exact ih hrest h
    | down _ _ _ _ h => exact ih hrest h
    | link _ _ _ h =>
      -- The segments of the link's target are segments of a path, too.
      refine hfollow _ _ (List.forall_mem_append.2 ⟨?_, hrest⟩) h
      exact fun _ hmem => separator_notMem_of_mem_pieces hmem
    | missing hname _ _ _ h =>
      cases h
      exact Path.isName_of_ofSegment? hsegment hname

theorem isName_of_descendFrom_missing {follow : Place → List Bytes → Except OsError Target}
    (hfollow : ∀ place segments, (∀ segment ∈ segments, Path.separator ∉ segment) →
      follow place segments = .ok (.missing parent name) → Path.IsName name)
    (hsegments : ∀ segment ∈ segments, Path.separator ∉ segment)
    (h : disk.descendFrom purpose follow place segments = .ok (.missing parent name)) :
    Path.IsName name := by
  unfold descendFrom at h
  split at h
  next => exact isName_of_descend_missing hfollow hsegments h
  next => cases h

theorem isName_of_resolve_missing (hsegments : ∀ segment ∈ segments, Path.separator ∉ segment)
    (h : disk.resolve purpose links place segments = .ok (.missing parent name)) :
    Path.IsName name := by
  induction links generalizing place segments with
  | zero =>
    rw [resolve] at h
    refine isName_of_descendFrom_missing ?_ hsegments h
    intro _ _ _ hrefused
    cases hrefused
  | succ links ih =>
    rw [resolve] at h
    exact isName_of_descendFrom_missing (fun _ _ => ih) hsegments h

/-! ## Planting -/

theorem put_wellNamed (hdisk : disk.root.WellNamed) (hnode : node.WellNamed)
    (hname : Path.IsName name) (place : Place) : (disk.put (place ++ [name]) node).root.WellNamed := by
  apply hdisk.put hnode
  intro _ last hlast
  rw [List.getLast?_concat] at hlast
  injection hlast with hlast
  rw [← hlast]
  exact hname

theorem directory_nil_wellNamed (listable : Bool) : (Node.directory [] listable).WellNamed :=
  .directory listable List.nodup_nil nofun nofun

theorem plantIn_wellNamed (hdisk : disk.root.WellNamed) (hnode : node.WellNamed)
    (hname : Path.IsName name) (place : Place) : (disk.plantIn place name node).root.WellNamed := by
  have hhere := put_wellNamed hdisk hnode hname place
  cases node with
  | link target => exact hhere
  | directory entries listable =>
    rw [plantIn]
    split
    next => exact hdisk
    next => exact hhere
  | file content =>
    rw [plantIn]
    split
    next found hresolve =>
      -- What is there already has its name.
      rcases node?_of_resolve hresolve with ⟨old, hold⟩
      apply hdisk.put hnode
      intro hnone
      rw [hold] at hnone
      cases hnone
    next parent missing hresolve =>
      have hsegments : ∀ segment ∈ [name], Path.separator ∉ segment :=
        List.forall_mem_singleton.2 hname.separator_notMem
      exact put_wellNamed hdisk hnode (isName_of_resolve_missing hsegments hresolve) parent
    next => exact hdisk

theorem plantAt_wellNamed (hdisk : disk.root.WellNamed) (hnode : node.WellNamed)
    (hsegments : ∀ segment ∈ segments, Path.separator ∉ segment) (place : Place) :
    (disk.plantAt node place segments).root.WellNamed := by
  induction segments generalizing disk place with
  | nil => exact hdisk
  | cons segment segments ih =>
    rcases List.forall_mem_cons.1 hsegments with ⟨hsegment, hrest⟩
    rw [plantAt]
    split
    next name hcomponent =>
      have hname := Path.isName_of_ofSegment? hsegment hcomponent
      split
      next => exact plantIn_wellNamed hdisk hnode hname place
      next =>
        split
        next found _ => exact ih hdisk hrest found
        next =>
          exact ih (put_wellNamed hdisk (directory_nil_wellNamed true) hname place) hrest _
    next => exact ih hdisk hrest _
    next => exact ih hdisk hrest place

/-- Planting a node at whatever path leaves every directory with different names that are names. -/
theorem plant_wellNamed (disk : Disk) (hdisk : disk.root.WellNamed) (path : Path)
    (hnode : node.WellNamed) : (disk.plant path node).root.WellNamed :=
  plantAt_wellNamed hdisk hnode (fun _ hmem => separator_notMem_of_mem_pieces hmem) _

/-- The disk with nodes planted one after the other. -/
def plantAll (disk : Disk) (nodes : List (Path × Node)) : Disk :=
  nodes.foldl (fun disk node => disk.plant node.1 node.2) disk

theorem plantAll_wellNamed (hdisk : disk.root.WellNamed) {nodes : List (Path × Node)}
    (hnodes : ∀ node ∈ nodes, node.2.WellNamed) : (disk.plantAll nodes).root.WellNamed := by
  unfold plantAll
  induction nodes generalizing disk with
  | nil => exact hdisk
  | cons node rest ih =>
    obtain ⟨hnode, hrest⟩ := List.forall_mem_cons.1 hnodes
    exact ih (plant_wellNamed disk hdisk node.1 hnode) hrest

/-- A disk with nothing but a root. -/
def empty : Disk := ⟨.directory [] true, []⟩

/-- Whatever is planted on an empty disk, and in whatever order, the tree has the names that a walk through
it relies on. -/
theorem plantAll_empty_wellNamed {nodes : List (Path × Node)}
    (hnodes : ∀ node ∈ nodes, node.2.WellNamed) : (empty.plantAll nodes).root.WellNamed :=
  plantAll_wellNamed (directory_nil_wellNamed true) hnodes

/-! ## Reports -/

theorem createDirectory_wellNamed (h : disk.createDirectory path = .ok after)
    (hdisk : disk.root.WellNamed) : after.root.WellNamed := by
  obtain ⟨parent, segment, name, hsegment, hname, -, rfl⟩ := createDirectory_eq_ok h
  refine put_wellNamed hdisk (directory_nil_wellNamed true) ?_ parent
  exact Path.isName_of_ofSegment? (separator_notMem_of_mem_pieces hsegment) hname

theorem writeFile_wellNamed (h : disk.writeFile path content = .ok after)
    (hdisk : disk.root.WellNamed) : after.root.WellNamed := by
  unfold writeFile at h
  cases htarget : disk.target .writing path with
  | error e =>
    rw [htarget] at h
    cases h
  | ok target =>
    rw [htarget] at h
    cases target with
    | missing parent name =>
      cases h
      refine put_wellNamed hdisk (.file content {}) ?_ parent
      refine isName_of_resolve_missing ?_ (target_eq_ok_iff.1 htarget).2
      exact fun _ hmem => separator_notMem_of_mem_pieces hmem
    | found place =>
      simp only [bind, Except.bind] at h
      split at h
      next old permissions hold =>
        split at h
        next =>
          cases h
          -- The file that is overwritten has its name already.
          refine hdisk.put (.file content permissions) fun hnone => ?_
          cases hold.symm.trans hnone
        next => cases h
      next => cases h

/-- A report leaves every directory with different names that are names, also when it is not written. -/
theorem writeReport_wellNamed (path : Path) (content : Bytes) (hdisk : disk.root.WellNamed) :
    (disk.writeReport path content).disk.root.WellNamed := by
  have hprepared : (disk.createDirectories path.parents).disk.root.WellNamed :=
    createDirectories_induction createDirectory_wellNamed hdisk path.parents
  rcases writeReport_cases disk path content with ⟨e, hwrite⟩ | ⟨after, hok, hwrite⟩
  · rw [hwrite]
    exact hprepared
  · rw [hwrite]
    exact writeFile_wellNamed hok hprepared

end Disk

end SourceGrade
