import SourceGrade.Proofs.Batch.Run
import SourceGrade.Proofs.Path.Order

/-!
# Sorted discovery

With sorting, neither the discovered files nor the outcome of a run depend on the order in which the
file system lists its files.
-/

namespace SourceGrade.Batch

variable {b : Batch} {root : Path}

/-- Sorted discovery sorts what is discovered without sorting. -/
theorem discover_of_sorted (hsorted : b.sorted = true) :
    b.discover root = ({ b with sorted := false }.discover root).map Path.sort := by
  unfold discover
  simp only [hsorted]
  cases b.fileSystem.isDirectory root with
  | false => rfl
  | true => cases b.fileSystem.listFiles root <;> rfl

/-- File systems that list the same files in different orders have the same files discovered, also
where the root is no directory and is itself the only file. -/
theorem exists_discover_perm {other : FileSystem} {found found' : List Path}
    (hunsorted : b.sorted = false)
    (hdirectory : other.isDirectory root = b.fileSystem.isDirectory root)
    (hfound : b.fileSystem.listFiles root = .ok found) (hfound' : other.listFiles root = .ok found')
    (hperm : found.Perm found') (hdistinct : (found.map Path.components).Nodup) :
    ∃ paths paths', b.discover root = .ok paths ∧
      { b with fileSystem := other }.discover root = .ok paths' ∧
      paths.Perm paths' ∧ (paths.map Path.components).Nodup := by
  unfold discover
  simp only [hdirectory, hfound, hfound', hunsorted]
  cases b.fileSystem.isDirectory root with
  | false => exact ⟨[root], [root], rfl, rfl, .refl _, List.pairwise_singleton _ _⟩
  | true => exact ⟨found, found', rfl, rfl, hperm, hdistinct⟩

/-- Sorted discovery and the outcome of a sorted run are the same for all orders in which the file
system may list the files, as long as no two of them have the same components. -/
theorem sorted_run_canonical {other : FileSystem} {found found' : List Path}
    (hsorted : b.sorted = true)
    (hdirectory : ∀ path, other.isDirectory path = b.fileSystem.isDirectory path)
    (hread : ∀ path, other.readText path = b.fileSystem.readText path)
    (hfound : b.fileSystem.listFiles root = .ok found) (hfound' : other.listFiles root = .ok found')
    (hperm : found.Perm found') (hdistinct : (found.map Path.components).Nodup) :
    ∃ unsorted paths o,
      { b with sorted := false }.discover root = .ok unsorted ∧ paths.Perm unsorted ∧
      b.discover root = .ok paths ∧ { b with fileSystem := other }.discover root = .ok paths ∧
      b.run root = .ok o ∧ { b with fileSystem := other }.run root = .ok o := by
  obtain ⟨unsorted, unsorted', hdiscover, hdiscover', hunsorted, hnodup⟩ :=
    exists_discover_perm (b := { b with sorted := false }) rfl (hdirectory root) hfound hfound'
      hperm hdistinct
  have hpaths : b.discover root = .ok (Path.sort unsorted) := by
    rw [discover_of_sorted hsorted, hdiscover]
    rfl
  have hpaths' : { b with fileSystem := other }.discover root = .ok (Path.sort unsorted) := by
    rw [Path.sort_eq_of_perm hunsorted hnodup,
      discover_of_sorted (b := { b with fileSystem := other }) hsorted, hdiscover']
    rfl
  have hattempt : { b with fileSystem := other }.attempt = b.attempt :=
    funext fun path => attempt_congr (hread path)
  refine ⟨unsorted, Path.sort unsorted, _, hdiscover, Path.sort_perm unsorted, hpaths, hpaths',
    run_of_discover hpaths, ?_⟩
  rw [run_of_discover hpaths', hattempt]

/-- By bytes the first of the two paths would come second: a dot is less than a separator. -/
def siblings : List Path := [Path.ofText "src/a".toList, Path.ofText "src.d".toList]

def siblingListing (found : List Path) : FileSystem where
  isDirectory := fun _ => true
  listFiles := fun _ => .ok found
  readText := fun path => .ok (Path.display path)

theorem sorted_run_canonical_siblings :
    siblings.Perm siblings.reverse ∧ (siblings.map Path.components).Nodup ∧
    ∃ unsorted paths o,
      { fileSystem := siblingListing siblings : Batch }.discover [] = .ok unsorted ∧
      paths.Perm unsorted ∧
      { fileSystem := siblingListing siblings, sorted := true : Batch }.discover [] = .ok paths ∧
      { fileSystem := siblingListing siblings.reverse, sorted := true : Batch }.discover [] =
        .ok paths ∧
      { fileSystem := siblingListing siblings, sorted := true : Batch }.run [] = .ok o ∧
      { fileSystem := siblingListing siblings.reverse, sorted := true : Batch }.run [] = .ok o := by
  have hperm : siblings.Perm siblings.reverse := siblings.reverse_perm.symm
  have hdistinct : (siblings.map Path.components).Nodup := by decide +kernel
  exact ⟨hperm, hdistinct,
    sorted_run_canonical (b := { fileSystem := siblingListing siblings, sorted := true }) rfl
      (fun _ => rfl) (fun _ => rfl) rfl rfl hperm hdistinct⟩

end SourceGrade.Batch
