import SourceGrade.CommandLine.Run
import SourceGrade.Proofs.Workers.Outcome

/-!
# Executions

A run in stages. What a scan comes to is the outcome of a batch and the report on it, however many
workers there are (`result_eq_ok_iff`); behind it only bringing the report to its place can fail.
-/

namespace SourceGrade.CommandLine

variable {o : Options} {disk : Disk} {paths : List Path} {filter : Log.Filter} {failure : Failure}
  {outcome : Outcome} {report : Text}

/-! ## Scanning -/

theorem checkWorkers_eq_ok_iff : o.checkWorkers = .ok () ↔ o.jobs ≤ maxPermits := by
  unfold Options.checkWorkers
  split
  next h => exact ⟨nofun, fun hjobs => absurd h.2 (Nat.not_lt.2 hjobs)⟩
  next h =>
    refine ⟨fun _ => Nat.not_lt.1 fun hlt => h ⟨?_, hlt⟩, fun _ => rfl⟩
    -- So many workers are more than one.
    exact decide_eq_true (Nat.lt_trans (by decide : 1 < maxPermits) hlt)

/-- The attempts are those of the sequence, however many workers make them. -/
theorem attempts_eq_map (b : Batch) (paths : List Path) (hjobs : o.jobs ≤ maxPermits) :
    o.attempts b paths = .ok (paths.map b.attempt) := by
  unfold Options.attempts
  rw [checkWorkers_eq_ok_iff.2 hjobs]
  cases hconcurrent : o.isConcurrent with
  | false => rfl
  | true =>
    have hlimit : 0 < o.jobs := Nat.lt_trans Nat.zero_lt_one (of_decide_eq_true hconcurrent)
    rw [if_pos rfl, Batch.attemptConcurrently_eq_map b paths hlimit]
    rfl

theorem attempts_eq_error (b : Batch) (paths : List Path) (hjobs : ¬ o.jobs ≤ maxPermits) :
    o.attempts b paths = .error .tooManyWorkers := by
  have hcheck : o.checkWorkers = .error .tooManyWorkers := by
    have hne := mt checkWorkers_eq_ok_iff.1 hjobs
    unfold Options.checkWorkers at hne ⊢
    split
    next => rfl
    next h => exact absurd (if_neg h) hne
  unfold Options.attempts
  rw [hcheck]
  rfl

/-- A scan of discovered files attempts them all, whatever the walk came across on the way. -/
theorem exists_scan_eq (hpaths : (o.batch disk.fileSystem).discover o.path = .ok paths) :
    ∃ events, scan o disk =
      .ofAttempts o events paths (o.attempts (o.batch disk.fileSystem) paths) := by
  refine ⟨if disk.isDirectory o.path then (disk.walk o.path).toOption.getD [] else [], ?_⟩
  unfold scan
  simp only [hpaths]

theorem scan_of_discover (hpaths : (o.batch disk.fileSystem).discover o.path = .ok paths) :
    (scan o disk).attempts = o.attempts (o.batch disk.fileSystem) paths := by
  obtain ⟨events, hscan⟩ := exists_scan_eq hpaths
  rw [hscan]
  rfl

theorem scan_of_discover_error {fault : Fault}
    (hfault : (o.batch disk.fileSystem).discover o.path = .error fault) :
    scan o disk = .failed fault := by
  unfold scan
  simp only [hfault]

theorem result_of_attempts {attempts : List Attempt} (h : (scan o disk).attempts = .ok attempts) :
    ((scan o disk).conclude o).result =
      (o.report (Outcome.ofAttempts attempts).files).map fun report =>
        (Outcome.ofAttempts attempts, report) := by
  unfold Scan.conclude
  rw [h]

theorem result_of_attempts_error (h : (scan o disk).attempts = .error failure) :
    ((scan o disk).conclude o).result = .error failure := by
  unfold Scan.conclude
  rw [h]

/-- There is a report exactly if there are permits for all workers, the batch has an outcome, and
the report on it can be made. -/
theorem result_eq_ok_iff : ((scan o disk).conclude o).result = .ok (outcome, report) ↔
    o.jobs ≤ maxPermits ∧ (o.batch disk.fileSystem).run o.path = .ok outcome ∧
      o.report outcome.files = .ok report := by
  cases hpaths : (o.batch disk.fileSystem).discover o.path with
  | error fault =>
    rw [scan_of_discover_error hpaths, Batch.run_of_discover_error hpaths]
    exact ⟨nofun, fun h => nomatch h.2.1⟩
  | ok paths =>
    rw [Batch.run_of_discover hpaths]
    by_cases hjobs : o.jobs ≤ maxPermits
    · have hattempts := (scan_of_discover hpaths).trans (attempts_eq_map _ paths hjobs)
      rw [result_of_attempts hattempts]
      cases hreport : o.report
          (Outcome.ofAttempts (paths.map (o.batch disk.fileSystem).attempt)).files with
      | error failure =>
        refine ⟨nofun, ?_⟩
        rintro ⟨-, h, hok⟩
        cases h
        rw [hreport] at hok
        cases hok
      | ok made =>
        constructor
        · intro h
          cases h
          exact ⟨hjobs, rfl, hreport⟩
        · rintro ⟨-, h, hok⟩
          cases h
          rw [hreport] at hok
          cases hok
          rfl
    · have hattempts := (scan_of_discover hpaths).trans (attempts_eq_error _ paths hjobs)
      rw [result_of_attempts_error hattempts]
      exact ⟨nofun, fun h => absurd h.1 hjobs⟩

/-! ## Failing and writing -/

theorem exitCode_ne_zero (failure : Failure) : failure.exitCode ≠ 0 := by
  cases failure <;> exact nofun

theorem execute_of_error (h : ((scan o disk).conclude o).result = .error failure) :
    execute o filter disk =
      { exitCode := failure.exitCode
        diagnostics := ((scan o disk).conclude o).diagnostics ++ [failure.diagnostic]
        filter, disk } := by
  unfold execute
  simp only [h]

theorem execute_of_emit_error {e : IoError}
    (h : ((scan o disk).conclude o).result = .ok (outcome, report))
    (hemit : (emit o disk report).2.error = some e) :
    execute o filter disk =
      { exitCode := (Failure.output e).exitCode
        diagnostics := ((scan o disk).conclude o).diagnostics ++ [(Failure.output e).diagnostic]
        filter
        disk := (emit o disk report).2.disk } := by
  unfold execute
  simp only [h, hemit]

theorem execute_of_ok (h : ((scan o disk).conclude o).result = .ok (outcome, report))
    (hemit : (emit o disk report).2.error = none) :
    execute o filter disk =
      { stdout := (emit o disk report).1
        diagnostics := ((scan o disk).conclude o).diagnostics ++ [.finished outcome]
        filter
        disk := (emit o disk report).2.disk } := by
  unfold execute
  simp only [h, hemit]

/-- Behind the arguments a run is an execution; only warnings are put in front of what it says. -/
theorem exists_run_eq {env : Environment} {arguments : List Bytes}
    (hparse : parse env arguments = .ok (.scan o)) (disk : Disk) :
    ∃ (filter : Log.Filter) (warnings : List Text),
      run env arguments disk =
        .ok { execute o filter disk with
          diagnostics := warnings.map .warning ++ (execute o filter disk).diagnostics } := by
  refine ⟨(logFilter (logSpecification env) o.verbose).1,
    (logFilter (logSpecification env) o.verbose).2, ?_⟩
  unfold run
  rw [hparse]
  rfl

end SourceGrade.CommandLine
