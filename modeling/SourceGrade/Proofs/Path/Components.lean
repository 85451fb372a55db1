import SourceGrade.Proofs.Path.Join

/-!
# Components of a path

The first segment of a path is read in its own way. Behind it the segments that are empty or a lone
dot say nothing: the components are the same without them, be it between two separators or at the end.
-/

namespace SourceGrade.Path

variable {p : Path} {segment first : Bytes} {rest : List Bytes}

/-- What the first segment of a path stands for. -/
def leading (segment : Bytes) : List Component :=
  if segment = [] then [.root] else if segment = [dot] then [.here]
  else (Component.ofSegment? segment).toList

theorem segments_append_separator (p q : Path) :
    segments (p ++ separator :: q) = p.segments ++ q.segments :=
  pieces_append_cons p q

theorem components_of_segments (hp : p ≠ []) (h : p.segments = first :: rest) :
    p.components = leading first ++ rest.filterMap Component.ofSegment? := by
  -- Only the path without bytes is nothing but an empty segment.
  have hrest : first = [] → rest ≠ [] := by
    rintro rfl rfl
    apply hp
    rw [← intercalate_pieces separator p, ← segments, h]
    rfl
  unfold components leading
  rw [h]
  dsimp only
  by_cases hnil : first = []
  · rw [if_pos hnil, if_pos hnil, if_neg (hrest hnil), List.singleton_append]
  · rw [if_neg hnil, if_neg hnil]
    by_cases hdot : first = [dot]
    · rw [if_pos hdot, if_pos hdot, List.singleton_append]
    · rw [if_neg hdot, if_neg hdot]

/-- Paths have the same components if their segments say the same behind the first one. -/
theorem components_congr {p' : Path} {rest' : List Bytes} (hp : p ≠ []) (hp' : p' ≠ [])
    (h : p.segments = first :: rest) (h' : p'.segments = first :: rest')
    (hrest : rest'.filterMap Component.ofSegment? = rest.filterMap Component.ofSegment?) :
    p'.components = p.components := by
  rw [components_of_segments hp h, components_of_segments hp' h', hrest]

section silent

variable (hsegment : segment = [] ∨ segment = [dot])

include hsegment

theorem segments_of_silent : segments segment = [segment] := by
  apply pieces_of_notMem
  rcases hsegment with rfl | rfl <;> decide

/-- Between two separators a segment that says nothing can be left out. -/
theorem components_silent (p q : Path) :
    components (p ++ separator :: (segment ++ separator :: q)) =
      components (p ++ separator :: q) := by
  have hnone : Component.ofSegment? segment = none := if_pos hsegment
  cases hp : p.segments with
  | nil => exact absurd hp (pieces_ne_nil separator p)
  | cons first rest =>
    have hwithout : segments (p ++ separator :: q) = first :: (rest ++ q.segments) := by
      rw [segments_append_separator, hp, List.cons_append]
    have hwith : segments (p ++ separator :: (segment ++ separator :: q)) =
        first :: (rest ++ segment :: q.segments) := by
      rw [segments_append_separator, segments_append_separator, segments_of_silent hsegment, hp,
        List.cons_append, List.singleton_append]
    refine components_congr (by simp) (by simp) hwithout hwith ?_
    rw [List.filterMap_append, List.filterMap_append, List.filterMap_cons_none hnone]

/-- At the end of a path it can be left out together with the separator. -/
theorem components_silent_end (hp : p ≠ []) :
    components (p ++ separator :: segment) = p.components := by
  have hnone : Component.ofSegment? segment = none := if_pos hsegment
  cases hsegments : p.segments with
  | nil => exact absurd hsegments (pieces_ne_nil separator p)
  | cons first rest =>
    have hwith : segments (p ++ separator :: segment) = first :: (rest ++ [segment]) := by
      rw [segments_append_separator, segments_of_silent hsegment, hsegments, List.cons_append]
    refine components_congr hp (by simp) hsegments hwith ?_
    rw [List.filterMap_append, List.filterMap_cons_none hnone, List.filterMap_nil, List.append_nil]

end silent

end SourceGrade.Path
