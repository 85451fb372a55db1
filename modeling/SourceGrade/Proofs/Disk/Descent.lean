import SourceGrade.Proofs.Disk.Resolution

/-!
# Resolutions that succeed

How a path leads to its target, segment by segment, whatever it is resolved for. A target that is
missing is an entry that an existing directory has not.
-/

namespace SourceGrade

namespace Node.Trail

theorem place_down (t : Trail) (name : Bytes) (node : Node) :
    (t.down name node).place = t.place ++ [name] := by
  unfold place down
  rw [List.map_cons, List.reverse_cons]

theorem place_parent (t : Trail) : t.parent.place = t.place.dropLast := by
  obtain ⟨node, above⟩ := t
  cases above with
  | nil => rfl
  | cons first above =>
    unfold place parent
    rw [List.map_cons, List.reverse_cons, List.dropLast_concat]

end Node.Trail

namespace Disk

open Node (Trail)

/-- Where the target is, or would be. -/
def Target.place : Target → Place
  | found place => place
  | missing parent name => parent ++ [name]

/-- A target that is missing is an entry that its directory has not. -/
def Target.Vacant (disk : Disk) : Target → Prop
  | found _ => True
  | missing parent name => ∃ entries listable,
      disk.node? parent = some (.directory entries listable) ∧ entries.lookup name = none

variable {disk : Disk} {t : Trail} {start : Place} {segments : List Bytes} {purpose : Purpose}
  {target : Target} {path : Path} {follow : Place → List Bytes → Except OsError Target}

/-! ## Descents that succeed -/

/-- How a descent to a target goes on from a directory. -/
inductive DescentStep (purpose : Purpose) (follow : Place → List Bytes → Except OsError Target)
    (t : Trail) (entries : List (Bytes × Node)) (segment : Bytes) (rest : List Bytes)
    (target : Target) : Prop
  | silent (hname : ∀ name, Path.Component.ofSegment? segment ≠ some (.name name))
      (hparent : Path.Component.ofSegment? segment ≠ some .parent)
      (h : descend purpose follow t rest = .ok target)
  | parent (hparent : Path.Component.ofSegment? segment = some .parent)
      (h : descend purpose follow t.parent rest = .ok target)
  | down {name : Bytes} {node : Node}
      (hname : Path.Component.ofSegment? segment = some (.name name))
      (hshort : ¬ maxNameLength < name.length) (hentry : entries.lookup name = some node)
      (hlink : ∀ path, node ≠ .link path)
      (h : descend purpose follow (t.down name node) rest = .ok target)
  | link {name : Bytes} {path : Path}
      (hname : Path.Component.ofSegment? segment = some (.name name))
      (hshort : ¬ maxNameLength < name.length) (hentry : entries.lookup name = some (.link path))
      (h : follow (startOf t.place path) (path.segments ++ rest) = .ok target)
  | missing {name : Bytes} (hname : Path.Component.ofSegment? segment = some (.name name))
      (hshort : ¬ maxNameLength < name.length) (hentry : entries.lookup name = none)
      (hrest : rest = []) (h : target = .missing t.place name)

theorem exists_descentStep {segment : Bytes} {rest : List Bytes}
    (h : descend purpose follow t (segment :: rest) = .ok target) :
    ∃ entries listable, t.node = .directory entries listable ∧
      DescentStep purpose follow t entries segment rest target := by
  cases hnode : t.node with
  | file | link =>
    rw [descend, hnode] at h
    cases h
  | directory entries listable =>
    refine ⟨entries, listable, rfl, ?_⟩
    cases hcomponent : Path.Component.ofSegment? segment with
    | none =>
      rw [descend, hnode] at h
      simp only [hcomponent] at h
      exact .silent (by simp [hcomponent]) (by simp [hcomponent]) h
    | some component =>
      rw [descend, hnode] at h
      cases component with
      | root | here =>
        simp only [hcomponent] at h
        exact .silent (by simp [hcomponent]) (by simp [hcomponent]) h
      | parent =>
        simp only [hcomponent] at h
        exact .parent hcomponent h
      | name name =>
        simp only [hcomponent] at h
        split at h
        next => cases h
        next =>
        split at h
        next => cases h
        next hshort =>
        cases hentry : entries.lookup name with
        | none =>
          simp only [hentry] at h
          split at h
          next hrest =>
            injection h with h
            exact .missing hcomponent hshort hentry hrest h.symm
          next => cases h
        | some node =>
          simp only [hentry] at h
          cases node with
          | link path => exact .link hcomponent hshort hentry h
          | file | directory =>
            refine .down hcomponent hshort hentry ?_ h
            rintro path ⟨⟩

theorem descend_silent {entries : List (Bytes × Node)} {listable : Bool} {segment : Bytes}
    (hdirectory : t.node = .directory entries listable)
    (hname : ∀ name, Path.Component.ofSegment? segment ≠ some (.name name))
    (hparent : Path.Component.ofSegment? segment ≠ some .parent) (rest : List Bytes) :
    descend purpose follow t (segment :: rest) = descend purpose follow t rest := by
  rw [descend, hdirectory]
  cases hcomponent : Path.Component.ofSegment? segment with
  | none => rfl
  | some component =>
    cases component with
    | root | here => rfl
    | parent => exact absurd hcomponent hparent
    | name name => exact absurd hcomponent (hname name)

theorem descend_parent {entries : List (Bytes × Node)} {listable : Bool} {segment : Bytes}
    (hdirectory : t.node = .directory entries listable)
    (hparent : Path.Component.ofSegment? segment = some .parent) (rest : List Bytes) :
    descend purpose follow t (segment :: rest) = descend purpose follow t.parent rest := by
  rw [descend, hdirectory]
  simp only [hparent]

/-! ## Targets -/

theorem vacant_of_descend
    (hfollow : ∀ start segments, follow start segments = .ok target → target.Vacant disk)
    (ht : t.StartsAt disk.root) (h : descend purpose follow t segments = .ok target) :
    target.Vacant disk := by
  induction segments generalizing t with
  | nil =>
    cases h
    trivial
  | cons segment rest ih =>
    obtain ⟨entries, listable, hdirectory, hstep⟩ := exists_descentStep h
    cases hstep with
    | silent _ _ h => exact ih ht h
    | parent _ h => exact ih ht.parent h
    | down _ _ hentry _ h => exact ih (ht.down hdirectory hentry) h
    | link _ _ _ h => exact hfollow _ _ h
    | missing _ _ hentry _ h =>
      rw [h]
      exact ⟨entries, listable, hdirectory ▸ node?_place ht, hentry⟩

theorem vacant_of_descendFrom
    (hfollow : ∀ start segments, follow start segments = .ok target → target.Vacant disk)
    (h : disk.descendFrom purpose follow start segments = .ok target) : target.Vacant disk := by
  unfold descendFrom at h
  split at h
  next htrail => exact vacant_of_descend hfollow (startsAt_of_trail? htrail) h
  next => cases h

theorem vacant_of_resolve {links : Nat} (h : disk.resolve purpose links start segments = .ok target) :
    target.Vacant disk := by
  induction links generalizing start segments with
  | zero =>
    rw [resolve] at h
    refine vacant_of_descendFrom ?_ h
    intro _ _ hrefused
    cases hrefused
  | succ links ih => exact vacant_of_descendFrom (fun _ _ => ih) h

theorem target_eq_ok_iff : disk.target purpose path = .ok target ↔ check path = .ok () ∧
    disk.resolve purpose maxLinks (startOf disk.workingDirectory path) path.segments =
      .ok target := by
  cases hcheck : check path with
  | error e =>
    rw [Disk.target, hcheck]
    constructor
    · rintro ⟨⟩
    · rintro ⟨⟨⟩, -⟩
  | ok =>
    rw [Disk.target, hcheck]
    show (disk.resolve purpose maxLinks (startOf disk.workingDirectory path)
      path.segments).mapError IoError.os = _ ↔ _
    cases disk.resolve purpose maxLinks (startOf disk.workingDirectory path) path.segments with
    | error e =>
      constructor
      · rintro ⟨⟩
      · rintro ⟨-, ⟨⟩⟩
    | ok found =>
      constructor
      · intro h
        cases h
        exact ⟨rfl, rfl⟩
      · rintro ⟨-, h⟩
        cases h
        rfl

end Disk

end SourceGrade
