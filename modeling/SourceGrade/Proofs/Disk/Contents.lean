import SourceGrade.Disk.Basic

/-!
# Reading behind a change

What is found at every place of a tree when a node has been put at one of them. The directories on
the way to that place get new entries, so that nodes are compared without what lies below them.
-/

namespace SourceGrade.Node

variable {tree node old new child : Node} {place : Place} {entries : List (Bytes × Node)}
  {listable : Bool} {name : Bytes} {content : Bytes} {permissions : Permissions}

/-! ## Places below -/

theorem at?_append (tree : Node) (place rest : Place) :
    tree.at? (place ++ rest) = (tree.at? place).bind (at? · rest) := by
  induction place generalizing tree with
  | nil => rfl
  | cons name place ih =>
    cases tree with
    | file | link => rfl
    | directory entries listable =>
      rw [List.cons_append, at?, at?]
      cases entries.lookup name with
      | none => rfl
      | some child => exact ih child

theorem at?_entry (h : tree.at? place = some (.directory entries listable)) (name : Bytes) :
    tree.at? (place ++ [name]) = entries.lookup name := by
  rw [at?_append, h, Option.bind_some, at?]
  cases entries.lookup name <;> rfl

/-- The nodes that nothing lies below. -/
def IsLeaf (node : Node) : Prop := ∀ name rest, node.at? (name :: rest) = none

theorem isLeaf_file (content : Bytes) (permissions : Permissions) :
    (Node.file content permissions).IsLeaf :=
  fun _ _ => rfl

theorem isLeaf_directory_nil (listable : Bool) : (Node.directory [] listable).IsLeaf :=
  fun _ _ => rfl

/-! ## Nodes on their own -/

/-- A node without what lies below it. -/
def bare : Node → Node
  | directory _ listable => directory [] listable
  | node => node

theorem bare_eq_file_iff :
    node.bare = .file content permissions ↔ node = .file content permissions := by
  cases node with
  | file | link => exact Iff.rfl
  | directory => exact ⟨nofun, nofun⟩

theorem eq_file_of_bare_eq (h : node.bare = old.bare) :
    node = .file content permissions ↔ old = .file content permissions := by
  rw [← bare_eq_file_iff, h, bare_eq_file_iff]

theorem eq_link_of_bare_eq {target : Path} (h : node.bare = (Node.link target).bare) :
    node = .link target := by
  cases node with
  | file | directory => cases h
  | link => exact h

theorem exists_directory_of_bare_eq (h : node.bare = (Node.directory entries listable).bare) :
    ∃ entries', node = .directory entries' listable := by
  cases node with
  | file | link => cases h
  | directory entries' =>
    cases h
    exact ⟨entries', rfl⟩

/-! ## Entries -/

theorem lookup_setEntry (name : Bytes) (node : Node) (entries : List (Bytes × Node)) (other : Bytes) :
    (setEntry name node entries).lookup other =
      if other = name then some node else entries.lookup other := by
  induction entries with
  | nil =>
    rw [setEntry, List.lookup_cons]
    by_cases h : other = name
    · rw [if_pos h, h, beq_self_eq_true]
    · rw [if_neg h, beq_false_of_ne h]
  | cons first rest ih =>
    rw [setEntry]
    by_cases hfirst : first.1 = name
    · rw [if_pos hfirst, List.lookup_cons, List.lookup_cons, hfirst]
      by_cases h : other = name
      · rw [if_pos h, h, beq_self_eq_true]
      · rw [if_neg h, beq_false_of_ne h]
    · rw [if_neg hfirst, List.lookup_cons, List.lookup_cons, ih]
      by_cases h : other = first.1
      · rw [h, beq_self_eq_true, if_neg hfirst, if_neg hfirst]
      · rw [beq_false_of_ne h]

/-! ## Putting a node -/

theorem put_old (hchild : entries.lookup name = some child) (place : Place) :
    put new (name :: place) (directory entries listable) =
      directory (setEntry name (put new place child) entries) listable := by
  rw [put, hchild]

theorem put_new (hchild : entries.lookup name = none) :
    put new [name] (directory entries listable) =
      directory (setEntry name new entries) listable := by
  rw [put, hchild]
  exact if_pos rfl

theorem put_lost (hchild : entries.lookup name = none) (hplace : place ≠ []) :
    put new (name :: place) (directory entries listable) = directory entries listable := by
  rw [put, hchild]
  exact if_neg hplace

/-- A leaf put at a place with nothing below it changes no node at any other place. -/
theorem map_bare_at?_put (hnew : new.IsLeaf)
    (hold : ∀ name rest, tree.at? (place ++ name :: rest) = none) {p : Place} (hp : p ≠ place) :
    ((put new place tree).at? p).map bare = (tree.at? p).map bare := by
  induction place generalizing tree p with
  | nil =>
    cases p with
    | nil => exact absurd rfl hp
    | cons name rest => rw [put, hnew name rest, ← List.nil_append (name :: rest), hold name rest]
  | cons first place ih =>
    cases tree with
    | file | link => rfl
    | directory entries listable =>
      cases hchild : entries.lookup first with
      | some child =>
        rw [put_old hchild]
        cases p with
        | nil => rfl
        | cons name rest =>
          rw [at?, at?, lookup_setEntry]
          by_cases hname : name = first
          · have hbelow : ∀ name rest, child.at? (place ++ name :: rest) = none := by
              intro name rest
              have h := hold name rest
              rw [List.cons_append, at?, hchild] at h
              exact h
            rw [if_pos hname, hname, hchild]
            refine ih hbelow fun hrest => hp ?_
            rw [hname, hrest]
          · rw [if_neg hname]
      | none =>
        by_cases hplace : place = []
        · rw [hplace, put_new hchild]
          cases p with
          | nil => rfl
          | cons name rest =>
            rw [at?, at?, lookup_setEntry]
            by_cases hname : name = first
            · -- Below the new entry there is as little as there was.
              rw [if_pos hname, hname, hchild]
              cases rest with
              | nil => exact absurd (by rw [hname, hplace]) hp
              | cons next rest => exact congrArg (Option.map bare) (hnew next rest)
            · rw [if_neg hname]
        · rw [put_lost hchild hplace]

/-- At the place of a node that has been put there is that node, or nothing. -/
theorem at?_put_eq_or (new : Node) (place : Place) (tree : Node) :
    (put new place tree).at? place = some new ∨ (put new place tree).at? place = none := by
  induction place generalizing tree with
  | nil => exact Or.inl rfl
  | cons name place ih =>
    cases tree with
    | file | link => exact Or.inr rfl
    | directory entries listable =>
      cases hchild : entries.lookup name with
      | some child =>
        rw [put_old hchild, at?, lookup_setEntry, if_pos rfl]
        exact ih child
      | none =>
        by_cases hplace : place = []
        · rw [hplace, put_new hchild, at?, lookup_setEntry, if_pos rfl]
          exact Or.inl rfl
        · rw [put_lost hchild hplace, at?, hchild]
          exact Or.inr rfl

/-- A node put where there was one is found there. -/
theorem at?_put (h : tree.at? place = some old) : (put new place tree).at? place = some new := by
  induction place generalizing tree with
  | nil => rfl
  | cons name place ih =>
    cases tree with
    | file | link => cases h
    | directory entries listable =>
      rw [at?] at h
      obtain ⟨child, hchild, hold⟩ := Option.bind_eq_some_iff.1 h
      rw [put_old hchild, at?, lookup_setEntry, if_pos rfl]
      exact ih hold

/-- A node put into a directory is found there. -/
theorem at?_put_entry (h : tree.at? place = some (.directory entries listable)) (name : Bytes) :
    (put new (place ++ [name]) tree).at? (place ++ [name]) = some new := by
  induction place generalizing tree with
  | nil =>
    cases h
    rw [List.nil_append]
    cases hchild : entries.lookup name with
    | some child =>
      rw [put_old hchild, at?, lookup_setEntry, if_pos rfl]
      rfl
    | none =>
      rw [put_new hchild, at?, lookup_setEntry, if_pos rfl]
      rfl
  | cons first place ih =>
    cases tree with
    | file | link => cases h
    | directory top listable =>
      rw [at?] at h
      obtain ⟨child, hchild, hold⟩ := Option.bind_eq_some_iff.1 h
      rw [List.cons_append, put_old hchild, at?, lookup_setEntry, if_pos rfl]
      exact ih hold

end SourceGrade.Node
