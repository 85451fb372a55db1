import SourceGrade.Path.Basic

/-!
# Paths of entries

The path of an entry has the segments of its directory and the name behind them, and the name can be
read back from the path of the entry and from every path below it.
-/

namespace SourceGrade

section pieces

variable {α : Type} [DecidableEq α] {separator : α} {list : List α}

theorem pieces_of_notMem (h : separator ∉ list) : pieces separator list = [list] := by
  induction list with
  | nil => rfl
  | cons a rest ih =>
    have hne : a ≠ separator := fun heq => h (heq ▸ List.mem_cons_self)
    rw [pieces, if_neg hne, ih fun hmem => h (List.mem_cons_of_mem a hmem)]

theorem pieces_append_cons (front back : List α) :
    pieces separator (front ++ separator :: back) =
      pieces separator front ++ pieces separator back := by
  induction front with
  | nil =>
    show pieces separator (separator :: back) = [] :: pieces separator back
    exact if_pos rfl
  | cons a rest ih =>
    rw [List.cons_append, pieces, pieces]
    split
    next => rw [ih, List.cons_append]
    next =>
      rw [ih]
      cases hrest : pieces separator rest with
      | nil => exact absurd hrest (pieces_ne_nil separator rest)
      | cons first others => rfl

theorem length_pieces (separator : α) (list : List α) :
    (pieces separator list).length = list.count separator + 1 := by
  induction list with
  | nil => rfl
  | cons a rest ih =>
    rw [pieces]
    by_cases ha : a = separator
    · rw [if_pos ha, ha, List.count_cons_self, List.length_cons, ih]
    · rw [if_neg ha, List.count_cons_of_ne ha, ← ih]
      cases hrest : pieces separator rest with
      | nil => exact absurd hrest (pieces_ne_nil separator rest)
      | cons first others => rfl

/-- Lists with a separator behind each one have their own parts, and an empty one behind the last
separator. -/
theorem pieces_flatMap (separator : α) (lists : List (List α)) :
    pieces separator (lists.flatMap (· ++ [separator])) =
      lists.flatMap (pieces separator) ++ [[]] := by
  induction lists with
  | nil => rfl
  | cons list rest ih =>
    rw [List.flatMap_cons, List.append_assoc, List.singleton_append, pieces_append_cons, ih,
      List.flatMap_cons, List.append_assoc]

end pieces

namespace Path

/-- A name as an entry of a directory has it. -/
structure IsName (name : Bytes) : Prop where
  ne_nil : name ≠ []
  ne_dot : name ≠ [dot]
  ne_parent : name ≠ [dot, dot]
  separator_notMem : separator ∉ name

instance (name : Bytes) : Decidable (IsName name) :=
  decidable_of_iff (name ≠ [] ∧ name ≠ [dot] ∧ name ≠ [dot, dot] ∧ separator ∉ name)
    ⟨fun ⟨hnil, hdot, hparent, hseparator⟩ => ⟨hnil, hdot, hparent, hseparator⟩,
      fun ⟨hnil, hdot, hparent, hseparator⟩ => ⟨hnil, hdot, hparent, hseparator⟩⟩

variable {dir path : Path} {name : Bytes}

theorem IsName.ofSegment? (h : IsName name) : Component.ofSegment? name = some (.name name) := by
  unfold Component.ofSegment?
  rw [if_neg fun hsilent => hsilent.elim h.ne_nil h.ne_dot, if_neg h.ne_parent]

theorem eq_of_ofSegment? {segment : Bytes} (h : Component.ofSegment? segment = some (.name name)) :
    segment = name ∧ segment ≠ [] ∧ segment ≠ [dot] ∧ segment ≠ [dot, dot] := by
  unfold Component.ofSegment? at h
  by_cases hsilent : segment = [] ∨ segment = [dot]
  · rw [if_pos hsilent] at h
    cases h
  · rw [if_neg hsilent] at h
    by_cases hparent : segment = [dot, dot]
    · rw [if_pos hparent] at h
      cases h
    · rw [if_neg hparent] at h
      cases h
      exact ⟨rfl, fun h => hsilent (Or.inl h), fun h => hsilent (Or.inr h), hparent⟩

theorem isName_of_ofSegment? {segment : Bytes} (hsegment : separator ∉ segment)
    (h : Component.ofSegment? segment = some (.name name)) : IsName name := by
  obtain ⟨rfl, hnil, hdot, hparent⟩ := eq_of_ofSegment? h
  exact ⟨hnil, hdot, hparent, hsegment⟩

theorem join_eq_append (dir : Path) (name : Bytes) : dir.join name = dir.join [] ++ name := by
  unfold join
  split
  · rfl
  · split
    · rw [List.append_nil]
    · rw [List.append_assoc, List.singleton_append]

theorem join_nil_isPrefix (dir : Path) (name : Bytes) : dir.join [] <+: dir.join name := by
  rw [join_eq_append dir name]
  exact List.prefix_append _ _

theorem head?_join (hdir : dir ≠ []) (name : Bytes) : (dir.join name).head? = dir.head? := by
  cases dir with
  | nil => exact absurd rfl hdir
  | cons first rest =>
    unfold join
    split
    next h => exact absurd (List.getLast?_eq_none_iff.1 h) hdir
    next => split <;> rfl

/-- A trailing separator of the directory leaves an empty segment, which the name takes the place of. -/
theorem exists_segments_join (hdir : dir ≠ []) (hname : separator ∉ name) :
    ∃ front, (dir.segments = front ∨ dir.segments = front ++ [[]]) ∧
      (dir.join name).segments = front ++ [name] := by
  unfold join segments
  split
  next h => exact absurd (List.getLast?_eq_none_iff.1 h) hdir
  next last hlast =>
    rcases List.getLast?_eq_some_iff.1 hlast with ⟨front, hfront⟩
    split
    next hseparator =>
      -- The last segment of the directory is empty, and the name goes there.
      refine ⟨pieces separator front, Or.inr ?_, ?_⟩
      · rw [hfront, hseparator, pieces_append_cons]
        rfl
      · rw [hfront, hseparator, List.append_assoc, List.singleton_append, pieces_append_cons,
          pieces_of_notMem hname]
    next =>
      refine ⟨pieces separator dir, Or.inl rfl, ?_⟩
      rw [pieces_append_cons, pieces_of_notMem hname]

/-- The name that a path below a directory has right behind the directory. -/
def nameBelow (dir path : Path) : Bytes :=
  (path.drop (dir.join []).length).takeWhile (· ≠ separator)

theorem takeWhile_append_of_notMem (hname : separator ∉ name) (rest : Bytes) :
    (name ++ rest).takeWhile (· ≠ separator) = name ++ rest.takeWhile (· ≠ separator) := by
  apply List.takeWhile_append_of_pos
  intro b hb
  exact decide_eq_true fun heq => hname (heq ▸ hb)

theorem nameBelow_join (dir : Path) (hname : IsName name) : nameBelow dir (dir.join name) = name := by
  have h := takeWhile_append_of_notMem hname.separator_notMem []
  unfold nameBelow
  rw [join_eq_append dir name, List.drop_left]
  rwa [List.append_nil, List.takeWhile_nil, List.append_nil] at h

theorem join_join_nil (dir : Path) (hname : IsName name) :
    (dir.join name).join [] = dir.join [] ++ (name ++ [separator]) := by
  rw [join_eq_append dir name, ← List.append_assoc]
  -- A name ends in no separator, so that one is put behind it.
  have hlast : (dir.join [] ++ name).getLast? = name.getLast? := by
    rw [List.getLast?_append]
    exact Option.or_of_isSome (List.getLast?_isSome.2 hname.ne_nil)
  generalize dir.join [] ++ name = below at hlast
  unfold join
  split
  next h =>
    rw [h] at hlast
    exact absurd (List.getLast?_eq_none_iff.1 hlast.symm) hname.ne_nil
  next last h =>
    rw [h] at hlast
    have hne : last ≠ separator := fun heq =>
      hname.separator_notMem (heq ▸ List.mem_of_getLast? hlast.symm)
    rw [if_neg hne]

theorem nameBelow_of_isPrefix (dir : Path) (hname : IsName name)
    (hpath : (dir.join name).join [] <+: path) : nameBelow dir path = name := by
  rcases hpath with ⟨rest, rfl⟩
  unfold nameBelow
  rw [join_join_nil dir hname, List.append_assoc, List.drop_left, List.append_assoc,
    takeWhile_append_of_notMem hname.separator_notMem, List.singleton_append,
    List.takeWhile_cons_of_neg (by decide), List.append_nil]

end Path

end SourceGrade
