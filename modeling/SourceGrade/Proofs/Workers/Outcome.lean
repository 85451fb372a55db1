import SourceGrade.CommandLine.Session
import SourceGrade.Proofs.Batch.Run
import SourceGrade.Proofs.Workers.Schedule

/-!
# Outcomes with several workers

However the workers are scheduled, a batch comes to the outcome that it has when the files are
scored one after the other.
-/

namespace SourceGrade

open Dispatch

namespace Batch

variable {b : Batch} {root : Path} {limit : Nat} {paths : List Path}

theorem runConcurrently?_of_follow {moves : List Move} {last : Dispatch}
    (hpaths : b.discover root = .ok paths)
    (hfollow : (Dispatch.start paths).follow? limit b.attempt moves = some last)
    (hfinal : last.isFinal = true) :
    b.runConcurrently? limit moves root = some (b.run root) := by
  have hsound := ((Sound.start b.attempt paths).follow hfollow).1
  rw [run_of_discover hpaths, ← hsound.attempts_eq hfinal]
  simp only [runConcurrently?, hpaths, hfollow, hfinal, if_true]

theorem eq_run_of_runConcurrently? {moves : List Move} {result : Except Fault Outcome}
    (h : b.runConcurrently? limit moves root = some result) : result = b.run root := by
  cases hpaths : b.discover root with
  | error fault =>
    rw [runConcurrently?, hpaths] at h
    rw [run_of_discover_error hpaths]
    exact (Option.some.inj h).symm
  | ok paths =>
    -- There is an outcome only if the moves can be made and lead to the end.
    have hrun := h
    simp only [runConcurrently?, hpaths] at h
    split at h
    next last hfollow =>
      split at h
      next hfinal =>
        exact Option.some.inj (hrun.symm.trans (runConcurrently?_of_follow hpaths hfollow hfinal))
      next => cases h
    next => cases h

/-- A schedule never gets stuck: from wherever it stands, some moves lead to the end. -/
theorem exists_runConcurrently? {moves : List Move} {d : Dispatch} (hlimit : 0 < limit)
    (hpaths : b.discover root = .ok paths)
    (hfollow : (Dispatch.start paths).follow? limit b.attempt moves = some d) :
    ∃ rest, b.runConcurrently? limit (moves ++ rest) root = some (b.run root) := by
  have hsound := ((Sound.start b.attempt paths).follow hfollow).1
  obtain ⟨rest, hrest, hfinal⟩ :=
    hsound.exists_follow_run hlimit d.remaining (Nat.le_succ _)
  refine ⟨rest, runConcurrently?_of_follow hpaths ?_ hfinal⟩
  rw [follow?_append, hfollow, Option.bind_some, hrest]

theorem remaining_start (paths : List Path) :
    (Dispatch.start paths).remaining = 4 * paths.length + 1 := by
  simp [remaining, Dispatch.start]

theorem length_le_of_follow {moves : List Move} {d : Dispatch}
    (hfollow : (Dispatch.start paths).follow? limit b.attempt moves = some d) :
    moves.length ≤ 4 * paths.length := by
  rcases (Sound.start b.attempt paths).follow hfollow with ⟨hsound, hremaining⟩
  rw [remaining_start] at hremaining
  have := hsound.remaining_pos
  omega

theorem attemptConcurrently_eq_map (b : Batch) (paths : List Path) (hlimit : 0 < limit) :
    b.attemptConcurrently limit paths = paths.map b.attempt := by
  have hsound := Sound.start b.attempt paths
  obtain ⟨moves, hfollow, hfinal⟩ :=
    hsound.exists_follow_run hlimit (4 * paths.length) (Nat.le_of_eq (remaining_start paths))
  exact (hsound.follow hfollow).1.attempts_eq hfinal

/-- With two workers or more, as many as there can be permits, every order of the moves that comes
to an end gives the outcome of the sequential run. Every schedule comes to an end, and the one that
is made gives the attempts of the sequential run. -/
theorem concurrent_outcome (b : Batch) (root : Path) (o : CommandLine.Options)
    (hjobs : 2 ≤ o.jobs) (haccepted : o.jobs ≤ maxPermits) :
    (∀ moves result, b.runConcurrently? o.jobs moves root = some result → result = b.run root) ∧
    (∀ fault, b.discover root = .error fault →
      b.run root = .error fault ∧
        ∀ moves, b.runConcurrently? o.jobs moves root = some (.error fault)) ∧
    (∀ paths, b.discover root = .ok paths →
      o.attempts b paths = .ok (paths.map b.attempt) ∧
      ∀ moves d, (Dispatch.start paths).follow? o.jobs b.attempt moves = some d →
        moves.length ≤ 4 * paths.length ∧
          ∃ rest, b.runConcurrently? o.jobs (moves ++ rest) root = some (b.run root)) := by
  have hlimit : 0 < o.jobs := Nat.lt_of_lt_of_le Nat.zero_lt_two hjobs
  refine ⟨fun moves result h => eq_run_of_runConcurrently? h, fun fault hfault => ?_,
    fun paths hpaths => ⟨?_, fun moves d hfollow => ?_⟩⟩
  · refine ⟨run_of_discover_error hfault, fun moves => ?_⟩
    rw [runConcurrently?, hfault]
  · have hcheck : o.checkWorkers = .ok () := if_neg fun h => Nat.not_lt.2 haccepted h.2
    have hconcurrent : o.isConcurrent = true := decide_eq_true hjobs
    rw [CommandLine.Options.attempts, hcheck, hconcurrent, if_pos rfl,
      attemptConcurrently_eq_map b paths hlimit]
    rfl
  · exact ⟨length_le_of_follow hfollow, exists_runConcurrently? hlimit hpaths hfollow⟩

/-- A batch of two files of which the first cannot be read. -/
def unevenBatch : Batch where
  fileSystem :=
    { isDirectory := fun _ => true
      listFiles := fun _ => .ok [[0x61], [0x62]]
      readText := fun path => if path = [0x61] then .error (.other "denied") else .ok "" }

/-- The second file is done and joined before the first one. -/
def overtaken : List Move :=
  [.acquire, .handOut, .acquire, .handOut, .finish 1, .finish 0, .join 1, .join 0]

theorem concurrent_outcome_overtaken :
    2 ≤ 2 ∧ 2 ≤ maxPermits ∧
      unevenBatch.runConcurrently? 2 overtaken [] = some (unevenBatch.run []) := by
  have haccepted : 2 ≤ maxPermits := by decide
  refine ⟨Nat.le_refl 2, haccepted, ?_⟩
  let o : CommandLine.Options := ⟨[], [], [], 2, none, false, false, false, false, false⟩
  have hends : (unevenBatch.runConcurrently? 2 overtaken []).isSome = true := rfl
  rcases Option.isSome_iff_exists.1 hends with ⟨result, hresult⟩
  rw [hresult, (concurrent_outcome unevenBatch [] o (Nat.le_refl 2) haccepted).1 _ _ hresult]

end Batch

end SourceGrade
