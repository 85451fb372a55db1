import SourceGrade.Proofs.Batch.Discovery
import SourceGrade.Proofs.Path.Below
import SourceGrade.Proofs.Path.Components

/-!
# Directories in sorted discovery

With sorting, what is discovered below a directory stands together: paths are ordered by their
components and not by their bytes, where a dot in a name is less than a separator.
-/

namespace SourceGrade.Batch

open SourceGrade.Path (Component IsBelow)

variable {b : Batch} {root : Path}

/-- The order of paths compares components, is total and transitive, and ties exactly the paths with
the same components, such as those with more separators or lone dots behind a separator. Sorted
discovery fails where discovery without sorting does, and otherwise finds the same paths in this
order: tied paths as they were discovered, and those below any directory in one row. -/
theorem sorted_discovery_contiguous (hsorted : b.sorted = true) :
    (∀ p q, Path.le p q = true ↔
      p.components = q.components ∨ List.Lex Component.Precedes p.components q.components) ∧
    (∀ p q, Path.le p q = true ∨ Path.le q p = true) ∧
    (∀ p q r, Path.le p q = true → Path.le q r = true → Path.le p r = true) ∧
    (∀ p q, Path.le p q = true ∧ Path.le q p = true ↔ p.components = q.components) ∧
    (∀ segment, segment = [] ∨ segment = [Path.dot] →
      (∀ p q, Path.components (p ++ Path.separator :: (segment ++ Path.separator :: q)) =
        Path.components (p ++ Path.separator :: q)) ∧
      ∀ p, p ≠ [] → Path.components (p ++ Path.separator :: segment) = Path.components p) ∧
    (∀ fault, { b with sorted := false }.discover root = .error fault →
      b.discover root = .error fault) ∧
    ∀ found, { b with sorted := false }.discover root = .ok found →
      ∃ paths, b.discover root = .ok paths ∧ paths.Perm found ∧
        paths.Pairwise (fun p q => Path.le p q = true) ∧
        (∀ components, paths.filter (·.components = components) =
          found.filter (·.components = components)) ∧
        ∀ dir, ∃ before behind, paths = before ++ paths.filter (IsBelow dir ·) ++ behind ∧
          (∀ p ∈ before, ¬ IsBelow dir p) ∧ ∀ p ∈ behind, ¬ IsBelow dir p := by
  refine ⟨Path.le_iff, fun p q => ?_, Path.le_trans, Path.tied_iff,
    fun segment hsegment => ⟨Path.components_silent hsegment, fun p =>
      Path.components_silent_end hsegment⟩, fun fault hfault => ?_, fun found hfound => ?_⟩
  · rw [← Bool.or_eq_true]
    exact Path.le_total p q
  · rw [discover_of_sorted hsorted, hfault]
    rfl
  · refine ⟨Path.sort found, ?_, Path.sort_perm found, Path.pairwise_sort found,
      fun components => Path.filter_sort components found, fun dir => Path.exists_sort_eq dir found⟩
    rw [discover_of_sorted hsorted, hfound]
    rfl

/-- Two spellings of one path below `a`, and a sibling of `a` that comes between them by its bytes. -/
def scattered : List Path :=
  [Path.ofText "b".toList, Path.ofText "a/z".toList, Path.ofText "a.c".toList,
    Path.ofText "a//z".toList, Path.ofText "a/y".toList]

theorem sorted_discovery_contiguous_scattered :
    let b : Batch := { fileSystem := siblingListing scattered, sorted := true }
    b.sorted = true ∧ { b with sorted := false }.discover [] = .ok scattered ∧
    ∃ paths, b.discover [] = .ok paths ∧ paths.Perm scattered ∧
      paths.filter (·.components = [.name [0x61], .name [0x7A]]) =
        [Path.ofText "a/z".toList, Path.ofText "a//z".toList] ∧
      ∃ before behind, paths = before ++ paths.filter (IsBelow [0x61] ·) ++ behind ∧
        (∀ p ∈ before, ¬ IsBelow [0x61] p) ∧ ∀ p ∈ behind, ¬ IsBelow [0x61] p := by
  intro b
  have hfound : { b with sorted := false }.discover [] = .ok scattered := rfl
  obtain ⟨paths, hpaths, hperm, -, hties, hbelow⟩ :=
    (sorted_discovery_contiguous (b := b) rfl).2.2.2.2.2.2 scattered hfound
  have htied : scattered.filter (·.components = [.name [0x61], .name [0x7A]]) =
      [Path.ofText "a/z".toList, Path.ofText "a//z".toList] := by decide +kernel
  exact ⟨rfl, hfound, paths, hpaths, hperm, (hties _).trans htied, hbelow [0x61]⟩

end SourceGrade.Batch
