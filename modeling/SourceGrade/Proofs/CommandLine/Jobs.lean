import SourceGrade.Proofs.CommandLine.Output
import SourceGrade.Proofs.Json.Digits

/-!
# The number of workers

Any number of 64 bits can be asked for. As long as there are permits for so many workers, a scan comes
to the outcome that it has with one, in whatever order they are done. With more of them it comes to none
as soon as files are discovered, be it none at all: the limit is that of the semaphore, which panics, and
nothing checks it before (`outcome_of_jobs`).
-/

namespace SourceGrade.CommandLine

variable {o : Options} {disk : Disk} {paths : List Path} {n : Nat} {text : Text}

/-! ## Numbers that are understood -/

/-- Only a plus sign in front is no part of the digits. -/
theorem exists_parseCount?_eq (text : Text) : ∃ digits : Text,
    ((∀ rest, text ≠ '+' :: rest) → digits = text) ∧
    parseCount? text =
      if digits ≠ [] ∧ digits.all Char.isDigit ∧ Nat.ofDigitChars 10 digits 0 < UInt64.size then
        some (Nat.ofDigitChars 10 digits 0)
      else none := by
  refine ⟨_, fun hplus => ?_, rfl⟩
  split
  · exact absurd rfl (hplus _)
  · rfl

theorem parseCount?_ofNat (hn : n < UInt64.size) : parseCount? (Text.ofNat n) = some n := by
  have hall : ∀ c ∈ Text.ofNat n, c.isDigit = true := fun c => Text.isDigit_of_mem_ofNat
  have hplus : ∀ rest, Text.ofNat n ≠ '+' :: rest := by
    intro rest h
    have hdigit := hall '+' (by rw [h]; exact List.mem_cons_self)
    exact absurd hdigit (by decide)
  obtain ⟨digits, hdigits, hparse⟩ := exists_parseCount?_eq (Text.ofNat n)
  rw [hparse, hdigits hplus, Text.ofDigitChars_ofNat, if_pos]
  exact ⟨Text.ofNat_ne_nil n, List.all_eq_true.2 hall, hn⟩

theorem lt_of_parseCount? (h : parseCount? text = some n) : n < UInt64.size := by
  obtain ⟨digits, -, hparse⟩ := exists_parseCount?_eq text
  rw [hparse] at h
  split at h
  next hcount =>
    cases h
    exact hcount.2.2
  next => cases h

/-! ## Outcomes -/

/-- What a scan comes to: the outcome of its attempts, unless it fails. -/
def Scan.outcome (scan : Scan) : Except Failure Outcome := scan.attempts.map Outcome.ofAttempts

/-- With permits for all workers a scan comes to what the batch comes to. -/
theorem outcome_of_le (disk : Disk) (hjobs : o.jobs ≤ maxPermits) :
    (scan o disk).outcome = ((o.batch disk.fileSystem).run o.path).mapError .fault := by
  unfold Scan.outcome
  cases hpaths : (o.batch disk.fileSystem).discover o.path with
  | error fault =>
    rw [scan_of_discover_error hpaths, Batch.run_of_discover_error hpaths]
    rfl
  | ok paths =>
    rw [scan_of_discover hpaths, attempts_eq_map _ paths hjobs, Batch.run_of_discover hpaths]
    rfl

theorem outcome_of_discover_error {fault : Fault}
    (hfault : (o.batch disk.fileSystem).discover o.path = .error fault) :
    (scan o disk).outcome = .error (.fault fault) := by
  unfold Scan.outcome
  rw [scan_of_discover_error hfault]
  rfl

/-- Without permits for all workers there are no attempts at the files that are discovered. -/
theorem attempts_of_lt (hjobs : maxPermits < o.jobs)
    (hpaths : (o.batch disk.fileSystem).discover o.path = .ok paths) :
    (scan o disk).attempts = .error .tooManyWorkers := by
  rw [scan_of_discover hpaths]
  exact attempts_eq_error _ paths (Nat.not_le.2 hjobs)

/-- A run that is broken off for want of permits says so behind all that it has said before, and has
done nothing else. -/
theorem execute_of_lt (filter : Log.Filter) (hjobs : maxPermits < o.jobs)
    (hpaths : (o.batch disk.fileSystem).discover o.path = .ok paths) :
    execute o filter disk =
      { exitCode := 101
        diagnostics := (scan o disk).diagnostics ++ [Failure.tooManyWorkers.diagnostic]
        filter, disk } := by
  have hattempts : (scan o disk).attempts = .error .tooManyWorkers := attempts_of_lt hjobs hpaths
  rw [execute_of_error (result_of_attempts_error hattempts), Scan.conclude, hattempts]
  rfl

/-! ## Any number of workers -/

/-- The numbers that are understood are those of 64 bits. With one worker a scan comes to the outcome
of the batch or fails as the batch does. With any number of workers that there are permits for it comes
to the same, however the workers are scheduled, and so it does with more of them if no files can be
discovered. Otherwise more workers than permits end the run: there is no outcome, nothing is reported or
written, the exit code is 101, and behind what is said of the scan there is the text of a panic. -/
theorem outcome_of_jobs (o : Options) (disk : Disk) (jobs : Nat) :
    let one := { o with jobs := 1 }
    let many := { o with jobs }
    let batch := o.batch disk.fileSystem
    ((∃ text, parseCount? text = some jobs) ↔ jobs < UInt64.size) ∧
    (scan one disk).outcome = (batch.run o.path).mapError .fault ∧
    (jobs ≤ maxPermits → (scan many disk).outcome = (scan one disk).outcome ∧
      ∀ moves result, batch.runConcurrently? jobs moves o.path = some result →
        result.mapError .fault = (scan one disk).outcome) ∧
    (∀ fault, batch.discover o.path = .error fault →
      (scan many disk).outcome = (scan one disk).outcome) ∧
    (maxPermits < jobs → ∀ paths, batch.discover o.path = .ok paths →
      (scan many disk).outcome = .error .tooManyWorkers ∧
      (scan one disk).outcome = .ok (.ofAttempts (paths.map batch.attempt)) ∧
      ∀ filter, (execute many filter disk).exitCode = 101 ∧ (execute many filter disk).stdout = [] ∧
        (execute many filter disk).disk = disk ∧
        ∀ thread, (execute many filter disk).stderr thread =
          (scan many disk).diagnostics.flatMap (·.render filter thread) ++
            Diagnostic.panicText thread Failure.semaphorePlace Failure.tooManyWorkers.message) := by
  intro one many batch
  -- Both scans are compared with the batch, which knows of no workers.
  have hone : (scan one disk).outcome = (batch.run o.path).mapError .fault :=
    outcome_of_le disk (by decide : 1 ≤ maxPermits)
  refine ⟨?_, hone, fun hjobs => ⟨?_, fun moves result hresult => ?_⟩, fun fault hfault => ?_,
    fun hjobs paths hpaths => ?_⟩
  · constructor
    · rintro ⟨text, htext⟩
      exact lt_of_parseCount? htext
    · intro hjobs
      exact ⟨_, parseCount?_ofNat hjobs⟩
  · rw [hone]
    exact outcome_of_le disk hjobs
  · rw [hone, Batch.eq_run_of_runConcurrently? hresult]
  · have hmany : (scan many disk).outcome = .error (.fault fault) := outcome_of_discover_error hfault
    rw [hmany, hone, Batch.run_of_discover_error hfault]
    rfl
  · have hlimit : maxPermits < many.jobs := hjobs
    have hmany : (many.batch disk.fileSystem).discover many.path = .ok paths := hpaths
    refine ⟨?_, ?_, fun filter => ?_⟩
    · unfold Scan.outcome
      rw [attempts_of_lt hlimit hmany]
      rfl
    · rw [hone, Batch.run_of_discover hpaths]
      rfl
    · rw [execute_of_lt filter hlimit hmany]
      refine ⟨rfl, rfl, rfl, fun thread => ?_⟩
      rw [Run.stderr, List.flatMap_append, List.flatMap_singleton]
      rfl

/-- The options of a command line with a directory and a number of workers. -/
def jobsOptions (jobs : Nat) : Options := { outputOptions none with jobs }

/-- A note of the log that the filter lets through, or anything else that is always said. -/
def Diagnostic.isSaid (filter : Log.Filter) : Diagnostic → Bool
  | log record => filter.allows record
  | _ => true

theorem Diagnostic.render_of_not_isSaid {filter : Log.Filter} {d : Diagnostic}
    (h : d.isSaid filter = false) (thread : Nat) : d.render filter thread = [] := by
  cases d with
  | log record => exact if_neg (Bool.eq_false_iff.1 h)
  | _ => cases h

/-- A scan says nothing without a filter that lets its notes through. -/
theorem flatMap_render_jobsOptions (thread : Nat) :
    (scan (jobsOptions 2305843009213693952) scannedDisk).diagnostics.flatMap
      (·.render (.ofDirectives [] none) thread) = [] := by
  have hsaid : (scan (jobsOptions 2305843009213693952) scannedDisk).diagnostics.any
      (·.isSaid (.ofDirectives [] none)) = false := by decide +kernel
  refine List.flatMap_eq_nil_iff.2 fun d hd => d.render_of_not_isSaid ?_ thread
  exact Bool.eq_false_iff.2 (List.any_eq_false.1 hsaid d hd)

/-- The last number of workers that there are permits for, and the first one that there are none for, with
all that is said of it. -/
theorem outcome_of_jobs_limit :
    (scan (jobsOptions 2305843009213693951) scannedDisk).outcome =
      (scan (jobsOptions 1) scannedDisk).outcome ∧
    (scan (jobsOptions 2305843009213693952) scannedDisk).outcome = .error .tooManyWorkers ∧
    (∃ outcome, (scan (jobsOptions 1) scannedDisk).outcome = .ok outcome) ∧
    parse [] [Path.ofText "--jobs=2305843009213693952".toList, [0x64]] =
      .ok (.scan (jobsOptions 2305843009213693952)) ∧
    (invoke [] [Path.ofText "--jobs=2305843009213693952".toList, [0x64]] scannedDisk).exitCode = 101 ∧
    (∀ thread, (execute (jobsOptions 2305843009213693952) (.ofDirectives [] none) scannedDisk).stderr
      thread = "\nthread 'main' (" ++ Text.ofNat thread ++ ") panicked at " ++ Failure.semaphorePlace ++
        ":\n" ++ "a semaphore may not have more than MAX_PERMITS permits (2305843009213693951)" ++
        "\nnote: run with `RUST_BACKTRACE=1` environment variable to display a backtrace\n") ∧
    (invoke [] [[0x64]] scannedDisk).exitCode = 0 := by
  have hdiscover : ((outputOptions none).batch scannedDisk.fileSystem).discover [0x64] =
      .ok [[0x64, 0x2F, 0x61]] := rfl
  have hparse : parse [] [Path.ofText "--jobs=2305843009213693952".toList, [0x64]] =
      .ok (.scan (jobsOptions 2305843009213693952)) := rfl
  obtain ⟨-, -, hlast, -, -⟩ := outcome_of_jobs (outputOptions none) scannedDisk 2305843009213693951
  obtain ⟨-, -, -, -, hfirst⟩ := outcome_of_jobs (outputOptions none) scannedDisk 2305843009213693952
  obtain ⟨hnone, hone, hends⟩ := hfirst (by decide) _ hdiscover
  refine ⟨(hlast (by decide)).1, hnone, ⟨_, hone⟩, hparse, ?_, fun thread => ?_, ?_⟩
  · obtain ⟨filter, hexit, -⟩ := exists_invoke_eq hparse scannedDisk
    rw [hexit]
    exact (hends filter).1
  · have hmessage : Failure.tooManyWorkers.message =
        "a semaphore may not have more than MAX_PERMITS permits (2305843009213693951)" := by decide +kernel
    have hstderr : (execute (jobsOptions 2305843009213693952) (.ofDirectives [] none)
        scannedDisk).stderr thread =
          (scan (jobsOptions 2305843009213693952) scannedDisk).diagnostics.flatMap
            (·.render (.ofDirectives [] none) thread) ++
            Diagnostic.panicText thread Failure.semaphorePlace Failure.tooManyWorkers.message :=
      (hends (.ofDirectives [] none)).2.2.2 thread
    rw [hstderr, flatMap_render_jobsOptions, hmessage]
    rfl
  · have hplain : parse [] [[0x64]] = .ok (.scan (outputOptions none)) := rfl
    obtain ⟨filter, hexit, -⟩ := exists_invoke_eq hplain scannedDisk
    obtain ⟨outcome, report, hresult⟩ := exists_result_outputOptions none
    rw [hexit, execute_of_ok hresult rfl]

end SourceGrade.CommandLine
