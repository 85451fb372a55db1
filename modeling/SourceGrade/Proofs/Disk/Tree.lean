import SourceGrade.Disk.Basic
import SourceGrade.Proofs.AssociationList
import SourceGrade.Proofs.Path.Join

/-!
# Trees with names

In a tree as a system keeps it the entries of a directory have different names, and their names are
names. What lies below a node of a tree is described by its path and the directories that it is in.
-/

namespace SourceGrade.Node

variable {root top node : Node} {place : Place} {entries : List (Bytes × Node)} {name : Bytes}

/-! ## Names -/

/-- Trees in which every directory has different names, all of them names that a system gives. -/
inductive WellNamed : Node → Prop
  | file (content : Bytes) (permissions : Permissions) : WellNamed (.file content permissions)
  | link (target : Path) : WellNamed (.link target)
  | directory {entries : List (Bytes × Node)} (listable : Bool)
      (distinct : (entries.map (·.1)).Nodup)
      (names : ∀ entry ∈ entries, Path.IsName entry.1)
      (nodes : ∀ entry ∈ entries, WellNamed entry.2) : WellNamed (.directory entries listable)

theorem WellNamed.of_at? (hroot : root.WellNamed) (h : root.at? place = some node) :
    node.WellNamed := by
  induction place generalizing root with
  | nil =>
    rw [at?, Option.some.injEq] at h
    exact h ▸ hroot
  | cons name rest ih =>
    cases hroot with
    | file | link => cases h
    | directory listable distinct names nodes =>
      rcases Option.bind_eq_some_iff.1 h with ⟨child, hentry, h⟩
      exact ih (nodes (name, child) (mem_of_lookup hentry)) h

/-! ## Counts of directories -/

theorem directoryCounts_append (front back : List (Bytes × Node)) :
    directoryCounts (front ++ back) = directoryCounts front + directoryCounts back := by
  induction front with
  | nil => rw [List.nil_append, directoryCounts, Nat.zero_add]
  | cons entry rest ih =>
    rw [List.cons_append, directoryCounts, directoryCounts, ih, Nat.add_assoc]

theorem directoryCounts_reverse (entries : List (Bytes × Node)) :
    directoryCounts entries.reverse = directoryCounts entries := by
  induction entries with
  | nil => rfl
  | cons entry rest ih =>
    rw [List.reverse_cons, directoryCounts_append, ih, directoryCounts, directoryCounts,
      directoryCounts]
    omega

theorem directoryCount_le_of_mem (hentry : (name, node) ∈ entries) :
    node.directoryCount ≤ directoryCounts entries := by
  rcases List.append_of_mem hentry with ⟨before, behind, rfl⟩
  rw [directoryCounts_append, directoryCounts]
  omega

theorem directoryCount_le_of_at? (h : root.at? place = some node) :
    node.directoryCount ≤ root.directoryCount := by
  induction place generalizing root with
  | nil =>
    rw [at?, Option.some.injEq] at h
    exact Nat.le_of_eq (congrArg directoryCount h.symm)
  | cons name rest ih =>
    cases root with
    | file | link => cases h
    | directory entries listable =>
      rcases Option.bind_eq_some_iff.1 h with ⟨child, hentry, h⟩
      have hchild := directoryCount_le_of_mem (mem_of_lookup hentry)
      have hnode := ih h
      rw [directoryCount]
      omega

/-! ## Below a node -/

/-- The nodes below `top` with their paths, when `top` is at the path `root`, and the paths of the
directories that they are in, the nearest first. No link is followed. -/
inductive Below (root : Path) (top : Node) : (above : List Path) → Path → Node → Prop
  | top : Below root top [] root top
  | entry {above : List Path} {dir : Path} {entries : List (Bytes × Node)} {listable : Bool}
      {name : Bytes} {node : Node} (h : Below root top above dir (.directory entries listable))
      (hentry : (name, node) ∈ entries) : Below root top (dir :: above) (dir.join name) node

end SourceGrade.Node
