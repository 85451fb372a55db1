import Mathlib.Data.List.TakeWhile
import SourceGrade.Proofs.Path.Components

/-!
# File names

The file name of a path is read off its bytes (`fileName?_eq_some_iff`): it stands at the start or
behind a separator, and only separators and lone dots stand behind it. The extension is what follows
the last dot of the name (`extension?_eq_some_iff`).
-/

namespace SourceGrade

/-- A list that has a separator is cut at the last one. -/
theorem exists_eq_append_of_mem {separator : α} {list : List α} (h : separator ∈ list) :
    ∃ front back, list = front ++ separator :: back ∧ separator ∉ back := by
  obtain ⟨back, front, heq, hback⟩ := List.eq_append_cons_of_mem (List.mem_reverse.2 h)
  refine ⟨front.reverse, back.reverse, ?_, fun hmem => hback (List.mem_reverse.1 hmem)⟩
  rw [← List.reverse_reverse list, heq, List.reverse_append, List.reverse_cons, List.append_assoc,
    List.singleton_append]

namespace Path

/-- Bytes that say nothing at the end of a path: separators, with or without a lone dot behind each. -/
inductive Trailing : Bytes → Prop
  | nil : Trailing []
  | cons {segment tail : Bytes} (hsegment : segment = [] ∨ segment = [dot]) (htail : Trailing tail) :
    Trailing (separator :: segment ++ tail)

variable {p q tail : Path} {name last stem ext : Bytes}

theorem Trailing.append {tail' : Bytes} (h : Trailing tail) (h' : Trailing tail') :
    Trailing (tail ++ tail') := by
  induction h with
  | nil => exact h'
  | cons hsegment _ ih =>
    rw [List.append_assoc]
    exact .cons hsegment ih

/-! ## Components -/

/-- What stands behind the last separator adds its component, if it says anything. -/
theorem components_append_separator (p : Path) (hlast : separator ∉ last) :
    components (p ++ separator :: last) =
      components (p ++ [separator]) ++ (Component.ofSegment? last).toList := by
  cases hp : p.segments with
  | nil => exact absurd hp (pieces_ne_nil separator p)
  | cons first rest =>
    have hwith : segments (p ++ separator :: last) = first :: (rest ++ [last]) := by
      rw [segments_append_separator, hp, segments, pieces_of_notMem hlast, List.cons_append]
    have hwithout : segments (p ++ [separator]) = first :: (rest ++ [[]]) := by
      rw [segments_append_separator, hp, List.cons_append]
      rfl
    have hnone : Component.ofSegment? [] = none := rfl
    rw [components_of_segments (by simp) hwith, components_of_segments (by simp) hwithout,
      List.filterMap_append, List.filterMap_append, List.filterMap_cons_none hnone,
      List.filterMap_nil, List.append_nil, List.append_assoc]
    cases h : Component.ofSegment? last with
    | none => rw [List.filterMap_cons_none h]; rfl
    | some c => rw [List.filterMap_cons_some h]; rfl

theorem components_of_notMem (hp : p ≠ []) (hseparator : separator ∉ p) :
    p.components = leading p := by
  rw [components_of_segments hp (pieces_of_notMem hseparator), List.filterMap_nil, List.append_nil]

theorem components_append_trailing (h : Trailing tail) (hp : p ≠ []) :
    components (p ++ tail) = p.components := by
  induction h generalizing p with
  | nil => rw [List.append_nil]
  | @cons segment tail hsegment _ ih =>
    rw [← List.append_assoc, ih (List.append_ne_nil_of_left_ne_nil hp _),
      components_silent_end hsegment hp]

/-! ## Names -/

theorem fileName?_eq_some_iff_getLast? :
    p.fileName? = some name ↔ p.components.getLast? = some (.name name) := by
  unfold fileName?
  split
  next bytes h => rw [h, Option.some_inj, Option.some_inj, Component.name.injEq]
  next h => exact iff_of_false nofun fun hname => h name hname

theorem fileName?_congr (h : p.components = q.components) : p.fileName? = q.fileName? := by
  rw [fileName?, fileName?, h]

theorem fileName?_append_trailing (p : Path) (h : Trailing tail) :
    (p ++ tail).fileName? = p.fileName? := by
  by_cases hp : p = []
  · subst hp
    cases h with
    | nil => rfl
    | @cons segment tail hsegment h =>
      -- Only the root is left of separators and lone dots.
      rw [List.nil_append, fileName?_congr (components_append_trailing h (List.cons_ne_nil _ _))]
      rcases hsegment with rfl | rfl <;> rfl
  · exact fileName?_congr (components_append_trailing h hp)

/-- A path that ends in a name, but for bytes behind it that say nothing. -/
structure EndsIn (p : Path) (name : Bytes) : Prop where
  isName : IsName name
  exists_eq : ∃ front tail, p = front ++ name ++ tail ∧
    (front = [] ∨ front.getLast? = some separator) ∧ Trailing tail

theorem EndsIn.append_left (h : EndsIn p name) (dir : Bytes) : EndsIn (dir ++ separator :: p) name := by
  obtain ⟨front, tail, rfl, hfront, htail⟩ := h.exists_eq
  refine ⟨h.isName, dir ++ separator :: front, tail, by simp, .inr ?_, htail⟩
  rcases hfront with rfl | hlast
  · rw [List.getLast?_append, List.getLast?_singleton, Option.some_or]
  · rw [List.getLast?_append, List.getLast?_cons, hlast, Option.getD_some, Option.some_or]

theorem EndsIn.append_trailing (h : EndsIn p name) {rest : Bytes} (hrest : Trailing rest) :
    EndsIn (p ++ rest) name := by
  obtain ⟨front, tail, rfl, hfront, htail⟩ := h.exists_eq
  exact ⟨h.isName, front, tail ++ rest, by simp, hfront, htail.append hrest⟩

theorem silent_of_ofSegment? (h : Component.ofSegment? last = none) : last = [] ∨ last = [dot] := by
  unfold Component.ofSegment? at h
  split at h
  next hsilent => exact hsilent
  next => split at h <;> cases h

theorem endsIn_of_notMem (hseparator : separator ∉ p) (h : p.fileName? = some name) :
    EndsIn p name := by
  have hp : p ≠ [] := by
    rintro rfl
    cases h
  rw [fileName?_eq_some_iff_getLast?, components_of_notMem hp hseparator, leading, if_neg hp] at h
  split at h
  next => cases h
  next =>
    cases hsegment : Component.ofSegment? p with
    | none =>
      rw [hsegment] at h
      cases h
    | some c =>
      rw [hsegment] at h
      cases h
      have hname := isName_of_ofSegment? hseparator hsegment
      obtain ⟨rfl, -⟩ := eq_of_ofSegment? hsegment
      exact ⟨hname, [], [], (List.append_nil _).symm, .inl rfl, .nil⟩

theorem endsIn_of_fileName? (h : p.fileName? = some name) : EndsIn p name := by
  -- The name is looked for from the end, segment by segment.
  induction hlength : p.length using Nat.strongRecOn generalizing p with
  | _ length ih =>
    by_cases hseparator : separator ∈ p
    · obtain ⟨front, last, rfl, hlast⟩ := exists_eq_append_of_mem hseparator
      cases hsegment : Component.ofSegment? last with
      | none =>
        have htail : Trailing (separator :: last) := by
          have hcons := Trailing.cons (silent_of_ofSegment? hsegment) .nil
          rwa [List.append_nil] at hcons
        rw [fileName?_append_trailing front htail] at h
        rw [List.length_append, List.length_cons] at hlength
        exact (ih front.length (by omega) h rfl).append_trailing htail
      | some c =>
        rw [fileName?_eq_some_iff_getLast?, components_append_separator front hlast, hsegment,
          Option.toList_some, List.getLast?_concat] at h
        cases h
        have hname := isName_of_ofSegment? hlast hsegment
        obtain ⟨rfl, -⟩ := eq_of_ofSegment? hsegment
        exact ⟨hname, front ++ [separator], [], by simp, .inr List.getLast?_concat, .nil⟩
    · exact endsIn_of_notMem hseparator h

theorem EndsIn.fileName?_eq (h : EndsIn p name) : p.fileName? = some name := by
  have hsegment := h.isName.ofSegment?
  obtain ⟨front, tail, rfl, hfront, htail⟩ := h.exists_eq
  rw [fileName?_append_trailing _ htail, fileName?_eq_some_iff_getLast?]
  rcases hfront with rfl | hlast
  · rw [List.nil_append, components_of_notMem h.isName.ne_nil h.isName.separator_notMem, leading,
      if_neg h.isName.ne_nil, if_neg h.isName.ne_dot, hsegment]
    rfl
  · obtain ⟨dir, rfl⟩ := List.getLast?_eq_some_iff.1 hlast
    rw [List.append_assoc, List.singleton_append,
      components_append_separator dir h.isName.separator_notMem, hsegment, Option.toList_some,
      List.getLast?_concat]

theorem fileName?_eq_some_iff : p.fileName? = some name ↔ EndsIn p name :=
  ⟨endsIn_of_fileName?, EndsIn.fileName?_eq⟩

/-! ## Extensions -/

theorem takeWhile_reverse_append (stem : Bytes) (hext : dot ∉ ext) :
    (stem ++ dot :: ext).reverse.takeWhile (· ≠ dot) = ext.reverse := by
  rw [List.reverse_append, List.reverse_cons, List.append_assoc, List.singleton_append,
    List.takeWhile_append_of_pos, List.takeWhile_cons_of_neg (by simp), List.append_nil]
  intro b hb
  exact decide_eq_true fun heq => hext (heq ▸ List.mem_reverse.1 hb)

theorem extension?_of_endsIn (h : EndsIn p (stem ++ dot :: ext)) (hext : dot ∉ ext) :
    p.extension? = if stem = [] then none else some ext := by
  have hdrop : (((stem ++ dot :: ext).reverse.drop ext.reverse.length).drop 1) = stem.reverse := by
    rw [List.reverse_append, List.reverse_cons, List.append_assoc, List.drop_left,
      List.singleton_append, List.drop_one, List.tail_cons]
  rw [extension?, h.fileName?_eq]
  dsimp only [Option.bind_eq_bind, Option.bind_some]
  simp only [takeWhile_reverse_append stem hext, hdrop, List.reverse_eq_nil_iff,
    List.reverse_reverse]

theorem extension?_of_notMem (h : EndsIn p name) (hdot : dot ∉ name) : p.extension? = none := by
  have hall : name.reverse.takeWhile (· ≠ dot) = name.reverse :=
    List.takeWhile_eq_self_iff.2 fun b hb =>
      decide_eq_true fun heq => hdot (heq ▸ List.mem_reverse.1 hb)
  rw [extension?, h.fileName?_eq]
  dsimp only [Option.bind_eq_bind, Option.bind_some]
  rw [hall, List.drop_length, List.drop_nil, if_pos rfl]

/-- The last dot of the name is in front of the extension, and something is in front of that dot. -/
theorem extension?_eq_some_iff : p.extension? = some ext ↔
    ∃ stem, EndsIn p (stem ++ dot :: ext) ∧ stem ≠ [] ∧ dot ∉ ext := by
  constructor
  · intro h
    cases hname : p.fileName? with
    | none =>
      rw [extension?, hname] at h
      cases h
    | some name =>
      have hends := endsIn_of_fileName? hname
      by_cases hdot : dot ∈ name
      · obtain ⟨stem, ext', rfl, hext'⟩ := exists_eq_append_of_mem hdot
        rw [extension?_of_endsIn hends hext'] at h
        split at h
        next => cases h
        next hstem =>
          cases h
          exact ⟨stem, hends, hstem, hext'⟩
      · rw [extension?_of_notMem hends hdot] at h
        cases h
  · rintro ⟨stem, hends, hstem, hext⟩
    rw [extension?_of_endsIn hends hext, if_neg hstem]

end Path

end SourceGrade
