import SourceGrade.Disk.Resolution
import SourceGrade.Proofs.Path.Join

/-!
# Resolving the path of an entry

A path that leads to a directory leads on, with a name behind it, to the entry of that name: links
that were followed on the way are followed again, and no others.
-/

namespace SourceGrade

namespace Node.Trail

/-- The trails that lead from a root through directories, from each one to an entry of it. -/
inductive StartsAt (root : Node) : Trail → Prop
  | root : StartsAt root { node := root }
  | down {t : Trail} {entries : List (Bytes × Node)} {listable : Bool} {name : Bytes} {node : Node}
      (h : StartsAt root t) (hdirectory : t.node = .directory entries listable)
      (hentry : entries.lookup name = some node) : StartsAt root (t.down name node)

variable {root : Node} {t t' : Trail} {place : Place}

theorem StartsAt.parent (h : t.StartsAt root) : t.parent.StartsAt root := by
  cases h with
  | root => exact .root
  | down h _ _ => exact h

theorem downTo?_append (t : Trail) (place rest : Place) :
    t.downTo? (place ++ rest) = (t.downTo? place).bind (·.downTo? rest) := by
  induction place generalizing t with
  | nil => rfl
  | cons name place ih =>
    rw [List.cons_append, downTo?, downTo?]
    split
    next entries _ _ =>
      cases entries.lookup name with
      | none => rfl
      | some node => exact ih (t.down name node)
    next => rfl

/-- The place of a trail leads to the trail itself. -/
theorem StartsAt.downTo?_place (h : t.StartsAt root) :
    Trail.downTo? { node := root } t.place = some t := by
  induction h with
  | root => rfl
  | @down t entries listable name node h hdirectory hentry ih =>
    have hplace : (t.down name node).place = t.place ++ [name] := by
      unfold place Trail.down
      rw [List.map_cons, List.reverse_cons]
    rw [hplace, downTo?_append, ih, Option.bind_some, downTo?, hdirectory]
    show (entries.lookup name).bind _ = _
    rw [hentry]
    rfl

theorem StartsAt.of_downTo? (h : t.StartsAt root) (hdown : t.downTo? place = some t') :
    t'.StartsAt root := by
  induction place generalizing t with
  | nil =>
    rw [downTo?, Option.some.injEq] at hdown
    exact hdown ▸ h
  | cons name rest ih =>
    rw [downTo?] at hdown
    split at hdown
    next entries listable hdirectory =>
      rcases Option.bind_eq_some_iff.1 hdown with ⟨node, hentry, hdown⟩
      exact ih (h.down hdirectory hentry) hdown
    next => cases hdown

end Node.Trail

namespace Disk

open Node (Trail)

/-! ## One segment -/

variable {root : Node} {t : Trail} {follow : Place → List Bytes → Except OsError Target}

/-- What a segment does, whatever comes behind it: it is refused, it leads on within the tree, it
names a link to be followed, or it names nothing. -/
inductive SegmentEffect (root : Node) (follow : Place → List Bytes → Except OsError Target)
    (t : Trail) (segment : Bytes) : Prop
  | refused (e : OsError) (h : ∀ rest, descend .use follow t (segment :: rest) = .error e)
  | onward (t' : Trail) (ht' : t'.StartsAt root)
      (h : ∀ rest, descend .use follow t (segment :: rest) = descend .use follow t' rest)
  | link (place : Place) (target : Path)
      (h : ∀ rest, descend .use follow t (segment :: rest) =
        follow place (target.segments ++ rest))
  | missing (place : Place) (name : Bytes)
      (hname : Path.Component.ofSegment? segment = some (.name name))
      (h : ∀ rest, descend .use follow t (segment :: rest) =
        if rest = [] then .ok (.missing place name) else .error .notFound)

section name

variable {entries : List (Bytes × Node)} {listable : Bool} {segment name : Bytes}
  (hdirectory : t.node = .directory entries listable)
  (hname : Path.Component.ofSegment? segment = some (.name name)) (rest : List Bytes)

include hdirectory hname

theorem descend_long (hlong : maxNameLength < name.length) :
    descend .use follow t (segment :: rest) = .error .nameTooLong := by
  rw [descend, hdirectory]
  simp only [hname]
  rw [if_neg (fun h => nomatch h.1), if_pos hlong]

variable (hshort : ¬ maxNameLength < name.length)

include hshort

theorem descend_missing (hentry : entries.lookup name = none) :
    descend .use follow t (segment :: rest) =
      if rest = [] then .ok (.missing t.place name) else .error .notFound := by
  rw [descend, hdirectory]
  simp only [hname]
  rw [if_neg (fun h => nomatch h.1), if_neg hshort, hentry]

theorem descend_link {target : Path} (hentry : entries.lookup name = some (.link target)) :
    descend .use follow t (segment :: rest) =
      follow (startOf t.place target) (target.segments ++ rest) := by
  rw [descend, hdirectory]
  simp only [hname]
  rw [if_neg (fun h => nomatch h.1), if_neg hshort, hentry]

theorem descend_down {node : Node} (hlink : ∀ target, node ≠ .link target)
    (hentry : entries.lookup name = some node) :
    descend .use follow t (segment :: rest) = descend .use follow (t.down name node) rest := by
  rw [descend, hdirectory]
  simp only [hname]
  rw [if_neg (fun h => nomatch h.1), if_neg hshort, hentry]
  cases node with
  | link target => exact absurd rfl (hlink target)
  | file | directory => rfl

end name

variable (follow) in
theorem segmentEffect (ht : t.StartsAt root) (segment : Bytes) :
    SegmentEffect root follow t segment := by
  cases hnode : t.node with
  | file content => exact .refused .notADirectory fun rest => by rw [descend, hnode]
  | link target => exact .refused .notADirectory fun rest => by rw [descend, hnode]
  | directory entries listable =>
    cases hcomponent : Path.Component.ofSegment? segment with
    | none => exact .onward t ht fun rest => by rw [descend, hnode]; simp only [hcomponent]
    | some component =>
      cases component with
      | root => exact .onward t ht fun rest => by rw [descend, hnode]; simp only [hcomponent]
      | here => exact .onward t ht fun rest => by rw [descend, hnode]; simp only [hcomponent]
      | parent =>
        exact .onward t.parent ht.parent fun rest => by rw [descend, hnode]; simp only [hcomponent]
      | name name =>
        by_cases hlong : maxNameLength < name.length
        · exact .refused .nameTooLong fun rest => descend_long hnode hcomponent rest hlong
        · cases hentry : entries.lookup name with
          | none =>
            exact .missing t.place name hcomponent fun rest =>
              descend_missing hnode hcomponent rest hlong hentry
          | some node =>
            have hdown := ht.down hnode hentry
            cases node with
            | link target =>
              exact .link _ target fun rest =>
                descend_link hnode hcomponent rest hlong hentry
            | file | directory =>
              exact .onward _ hdown fun rest =>
                descend_down hnode hcomponent rest hlong nofun hentry

/-! ## Several segments -/

/-- Segments that lead to a place either stay within the tree or come to a link that leads there. -/
theorem descend_append (ht : t.StartsAt root) {segments : List Bytes} {p : Place}
    (h : descend .use follow t segments = .ok (.found p)) :
    (∃ t', t'.StartsAt root ∧ t'.place = p ∧
      ∀ rest, descend .use follow t (segments ++ rest) = descend .use follow t' rest) ∨
    (∃ place remaining, follow place remaining = .ok (.found p) ∧
      ∀ rest, descend .use follow t (segments ++ rest) = follow place (remaining ++ rest)) := by
  induction segments generalizing t with
  | nil =>
    rw [descend] at h
    injection h with h
    injection h with h
    exact Or.inl ⟨t, ht, h, fun rest => rfl⟩
  | cons segment segments ih =>
    cases segmentEffect follow ht segment with
    | refused e hstep =>
      rw [hstep] at h
      cases h
    | onward t' ht' hstep =>
      rw [hstep] at h
      rcases ih ht' h with ⟨t'', ht'', hplace, hall⟩ | ⟨place, remaining, hfound, hall⟩
      · exact Or.inl ⟨t'', ht'', hplace, fun rest => (hstep _).trans (hall rest)⟩
      · exact Or.inr ⟨place, remaining, hfound, fun rest => (hstep _).trans (hall rest)⟩
    | link place target hstep =>
      rw [hstep] at h
      refine Or.inr ⟨place, target.segments ++ segments, h, fun rest => ?_⟩
      rw [List.cons_append, hstep, List.append_assoc]
    | missing place name _ hstep =>
      rw [hstep] at h
      split at h <;> cases h

/-- An empty segment in front of another segment says nothing. -/
theorem descend_append_nil_cons (ht : t.StartsAt root) (segments : List Bytes) (last : Bytes)
    (hfollow : ∀ place segments,
      follow place (segments ++ [[], last]) = follow place (segments ++ [last])) :
    descend .use follow t (segments ++ [[], last]) = descend .use follow t (segments ++ [last]) := by
  induction segments generalizing t with
  | nil =>
    -- Only a directory takes a segment at all, be it empty or not.
    rw [List.nil_append, List.nil_append, descend]
    split
    next => rfl
    next hnode =>
      rw [descend]
      split
      next hdirectory => exact absurd hdirectory (hnode _ _)
      next => rfl
  | cons segment segments ih =>
    rw [List.cons_append, List.cons_append]
    cases segmentEffect follow ht segment with
    | refused e hstep => rw [hstep, hstep]
    | onward t' ht' hstep => rw [hstep, hstep, ih ht']
    | link place target hstep =>
      rw [hstep, hstep, ← List.append_assoc, ← List.append_assoc, hfollow]
    | missing place name _ hstep =>
      rw [hstep, hstep, if_neg (by simp), if_neg (by simp)]

/-! ## Links -/

variable {disk : Disk} {place p : Place} {segments : List Bytes} {links : Nat}

theorem startsAt_of_trail? (h : disk.trail? place = some t) : t.StartsAt disk.root :=
  Trail.StartsAt.root.of_downTo? h

theorem descendFrom_place (ht : t.StartsAt disk.root) (rest : List Bytes) :
    disk.descendFrom .use follow t.place rest = descend .use follow t rest := by
  have htrail : disk.trail? t.place = some t := ht.downTo?_place
  rw [descendFrom, htrail]

theorem descendFrom_append (h : disk.descendFrom .use follow place segments = .ok (.found p)) :
    (∃ t : Trail, t.StartsAt disk.root ∧ t.place = p ∧
      ∀ rest, disk.descendFrom .use follow place (segments ++ rest) =
        disk.descendFrom .use follow p rest) ∨
    (∃ place' remaining, follow place' remaining = .ok (.found p) ∧
      ∀ rest, disk.descendFrom .use follow place (segments ++ rest) =
        follow place' (remaining ++ rest)) := by
  cases htrail : disk.trail? place with
  | none =>
    rw [descendFrom, htrail] at h
    cases h
  | some start =>
    have heq : ∀ rest, disk.descendFrom .use follow place rest = descend .use follow start rest :=
      fun rest => by rw [descendFrom, htrail]
    rw [heq] at h
    rcases descend_append (startsAt_of_trail? htrail) h with
      ⟨t, ht, rfl, hall⟩ | ⟨place', remaining, hfound, hall⟩
    · refine Or.inl ⟨t, ht, rfl, fun rest => ?_⟩
      rw [heq, hall, descendFrom_place ht]
    · exact Or.inr ⟨place', remaining, hfound, fun rest => (heq _).trans (hall rest)⟩

/-- Segments that lead to a place lead on from there, with the links that are left. -/
theorem resolve_append (h : disk.resolve .use links place segments = .ok (.found p)) :
    ∃ (t : Trail) (left : Nat), t.StartsAt disk.root ∧ t.place = p ∧
      ∀ rest, disk.resolve .use links place (segments ++ rest) = disk.resolve .use left p rest := by
  induction links generalizing place segments with
  | zero =>
    rcases descendFrom_append h with ⟨t, ht, hplace, hall⟩ | ⟨_, _, hfound, _⟩
    · exact ⟨t, 0, ht, hplace, hall⟩
    · cases hfound
  | succ links ih =>
    rcases descendFrom_append h with ⟨t, ht, hplace, hall⟩ | ⟨place', remaining, hfound, hall⟩
    · exact ⟨t, links + 1, ht, hplace, hall⟩
    · -- The link costs one of the links, and what follows is resolved with the others.
      rcases ih hfound with ⟨t, left, ht, hplace, hrest⟩
      exact ⟨t, left, ht, hplace, fun rest => (hall rest).trans (hrest rest)⟩

theorem descendFrom_append_nil_cons (last : Bytes)
    (hfollow : ∀ place segments,
      follow place (segments ++ [[], last]) = follow place (segments ++ [last])) :
    disk.descendFrom .use follow place (segments ++ [[], last]) =
      disk.descendFrom .use follow place (segments ++ [last]) := by
  unfold descendFrom
  split
  next htrail => exact descend_append_nil_cons (startsAt_of_trail? htrail) segments last hfollow
  next => rfl

theorem resolve_append_nil_cons (links : Nat) (place : Place) (segments : List Bytes) (last : Bytes) :
    disk.resolve .use links place (segments ++ [[], last]) =
      disk.resolve .use links place (segments ++ [last]) := by
  induction links generalizing place segments with
  | zero => exact descendFrom_append_nil_cons last fun _ _ => rfl
  | succ links ih => exact descendFrom_append_nil_cons last ih

/-! ## Paths -/

variable {dir path : Path} {name : Bytes} {node found : Node}

theorem ne_nil_of_check (h : check path = .ok ()) : path ≠ [] := by
  intro hnil
  rw [hnil] at h
  cases h

theorem find_eq_ok_iff : disk.find path = .ok node ↔
    check path = .ok () ∧ ∃ p,
      disk.resolve .use maxLinks (startOf disk.workingDirectory path) path.segments =
        .ok (.found p) ∧
      disk.node? p = some node := by
  cases hcheck : check path with
  | error e =>
    rw [find, target, hcheck]
    exact ⟨nofun, fun h => nomatch h.1⟩
  | ok =>
    have htarget : disk.target .use path =
        (disk.resolve .use maxLinks (startOf disk.workingDirectory path) path.segments).mapError
          .os := by
      rw [target, hcheck]
      rfl
    cases hresolve :
        disk.resolve .use maxLinks (startOf disk.workingDirectory path) path.segments with
    | error e =>
      rw [find, htarget, hresolve]
      exact ⟨nofun, fun ⟨_, _, h, _⟩ => nomatch h⟩
    | ok target =>
      have hok : disk.target .use path = .ok target := by
        rw [htarget, hresolve]
        rfl
      rw [find, hok]
      cases target with
      | missing => exact ⟨nofun, fun ⟨_, _, h, _⟩ => nomatch h⟩
      | found p =>
        cases hnode : disk.node? p with
        | none =>
          simp only [bind, Except.bind, hnode]
          refine ⟨nofun, ?_⟩
          rintro ⟨-, q, hq, hfound⟩
          cases hq
          rw [hnode] at hfound
          cases hfound
        | some found =>
          simp only [bind, Except.bind, hnode]
          constructor
          · intro h
            injection h with h
            exact ⟨trivial, p, rfl, h ▸ hnode⟩
          · rintro ⟨-, q, hq, hfound⟩
            cases hq
            rw [hnode] at hfound
            rw [Option.some.inj hfound]

theorem node?_place (ht : t.StartsAt disk.root) : disk.node? t.place = some t.node := by
  have htrail : disk.trail? t.place = some t := ht.downTo?_place
  rw [← map_node_trail?, htrail]
  rfl

/-- The path of an entry leads on from where the path of its directory leads. -/
theorem exists_resolve_join {directory : Node} (hdir : disk.find dir = .ok directory)
    (hname : Path.IsName name) :
    ∃ (t : Trail) (left : Nat), t.StartsAt disk.root ∧ t.node = directory ∧
      disk.resolve .use maxLinks (startOf disk.workingDirectory (dir.join name))
        (dir.join name).segments = disk.resolve .use left t.place [name] := by
  rcases find_eq_ok_iff.1 hdir with ⟨hcheck, p, hresolve, hnode⟩
  have hne := ne_nil_of_check hcheck
  rcases Path.exists_segments_join hne hname.separator_notMem with ⟨front, hfront, hjoin⟩
  have hstart : startOf disk.workingDirectory (dir.join name) =
      startOf disk.workingDirectory dir := by
    unfold startOf
    rw [Path.head?_join hne]
  -- Without its trailing separator the directory leads to the same place.
  have happend : disk.resolve .use maxLinks (startOf disk.workingDirectory dir) (front ++ [name]) =
      disk.resolve .use maxLinks (startOf disk.workingDirectory dir) (dir.segments ++ [name]) := by
    cases hfront with
    | inl h => rw [h]
    | inr h =>
      rw [h, List.append_assoc]
      exact (resolve_append_nil_cons maxLinks _ front name).symm
  rcases resolve_append hresolve with ⟨t, left, ht, rfl, hall⟩
  refine ⟨t, left, ht, ?_, ?_⟩
  · rw [node?_place ht] at hnode
    exact Option.some.inj hnode
  · rw [hstart, hjoin, happend, hall]

section entry

variable {entries : List (Bytes × Node)} {listable : Bool} (hname : Path.IsName name)
  (hentry : entries.lookup name = some node) (hlink : ∀ target, node ≠ .link target)

include hname hentry hlink

theorem resolve_name (ht : t.StartsAt disk.root) (hdirectory : t.node = .directory entries listable)
    (links : Nat) :
    disk.resolve .use links t.place [name] =
      if maxNameLength < name.length then .error .nameTooLong
      else .ok (.found (t.down name node).place) := by
  -- No link is met, so that it does not matter how many may be followed.
  have hstep : ∀ follow, disk.descendFrom .use follow t.place [name] =
      if maxNameLength < name.length then .error .nameTooLong
      else .ok (.found (t.down name node).place) := by
    intro follow
    rw [descendFrom_place ht]
    by_cases hlong : maxNameLength < name.length
    · rw [if_pos hlong, descend_long hdirectory hname.ofSegment? [] hlong]
    · rw [if_neg hlong, descend_down hdirectory hname.ofSegment? [] hlong hlink hentry]
      rfl
  cases links with
  | zero => exact hstep _
  | succ links => exact hstep _

/-- The path of an entry leads to that entry, unless the system refuses the path or the name. -/
theorem find_join_eq_ok_iff (hdir : disk.find dir = .ok (.directory entries listable)) :
    disk.find (dir.join name) = .ok found ↔
      check (dir.join name) = .ok () ∧ name.length ≤ maxNameLength ∧ found = node := by
  rcases exists_resolve_join hdir hname with ⟨t, left, ht, hdirectory, hjoin⟩
  have hnode : disk.node? (t.down name node).place = some node :=
    node?_place (ht.down hdirectory hentry)
  rw [find_eq_ok_iff, hjoin, resolve_name hname hentry hlink ht hdirectory]
  apply and_congr_right
  intro _
  by_cases hlong : maxNameLength < name.length
  · rw [if_pos hlong]
    constructor
    · rintro ⟨_, h, _⟩
      cases h
    · intro h
      exact absurd h.1 (Nat.not_le.2 hlong)
  · rw [if_neg hlong]
    constructor
    · rintro ⟨p, hp, hfound⟩
      injection hp with hp
      injection hp with hp
      rw [← hp, hnode] at hfound
      exact ⟨Nat.not_lt.1 hlong, (Option.some.inj hfound).symm⟩
    · rintro ⟨-, rfl⟩
      exact ⟨_, rfl, hnode⟩

end entry

end Disk

end SourceGrade
