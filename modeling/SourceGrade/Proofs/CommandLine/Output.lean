import SourceGrade.Proofs.CommandLine.Dropping
import SourceGrade.Proofs.CommandLine.Execution
import SourceGrade.Proofs.Disk.Planting

/-!
# The output of a run

A run gives its whole report or none of it. One that fails says nothing on standard output and changes
no regular file; one that ends well gives the report to standard output or to one file, never to both.
What it scans does not depend on where the report goes.
-/

namespace SourceGrade.CommandLine

variable {o : Options} {disk : Disk} {env : Environment} {arguments : List Bytes} {path : Path}
  {filter : Log.Filter} {outcome : Outcome} {report : Text}

/-! ## Bringing the report to its place -/

theorem emit_of_stdout (h : o.reportOutput = none) : emit o disk report = (report, { disk }) := by
  unfold emit
  rw [h]

theorem emit_of_path (h : o.reportOutput = some path) :
    emit o disk report = ([], disk.writeReport path (Utf8.encode report)) := by
  unfold emit
  rw [h]

/-- Only a path for the report can keep it from its place. -/
theorem sameFiles_emit {e : IoError} (h : (emit o disk report).2.error = some e) :
    disk.SameFiles (emit o disk report).2.disk := by
  cases hpath : o.reportOutput with
  | none =>
    rw [emit_of_stdout hpath] at h
    cases h
  | some path =>
    rw [emit_of_path hpath] at h ⊢
    exact Disk.sameFiles_writeReport h

theorem emit_wellNamed (o : Options) (report : Text) (hdisk : disk.root.WellNamed) :
    (emit o disk report).2.disk.root.WellNamed := by
  cases hpath : o.reportOutput with
  | none =>
    rw [emit_of_stdout hpath]
    exact hdisk
  | some path =>
    rw [emit_of_path hpath]
    exact Disk.writeReport_wellNamed path _ hdisk

/-! ## Executions -/

theorem execute_of_exitCode_ne_zero (h : (execute o filter disk).exitCode ≠ 0) :
    (execute o filter disk).stdout = [] ∧ disk.SameFiles (execute o filter disk).disk := by
  cases hresult : ((scan o disk).conclude o).result with
  | error failure =>
    rw [execute_of_error hresult]
    exact ⟨rfl, .refl disk⟩
  | ok made =>
    cases hemit : (emit o disk made.2).2.error with
    | some e =>
      rw [execute_of_emit_error hresult hemit]
      exact ⟨rfl, sameFiles_emit hemit⟩
    | none =>
      rw [execute_of_ok hresult hemit] at h
      exact absurd rfl h

theorem exists_of_exitCode_eq_zero (h : (execute o filter disk).exitCode = 0) :
    ∃ outcome report, ((scan o disk).conclude o).result = .ok (outcome, report) ∧
      (emit o disk report).2.error = none := by
  cases hresult : ((scan o disk).conclude o).result with
  | error failure =>
    rw [execute_of_error hresult] at h
    exact absurd h (exitCode_ne_zero failure)
  | ok made =>
    cases hemit : (emit o disk made.2).2.error with
    | some e =>
      rw [execute_of_emit_error hresult hemit] at h
      exact absurd h (exitCode_ne_zero (.output e))
    | none => exact ⟨made.1, made.2, rfl, hemit⟩

theorem execute_wellNamed (o : Options) (filter : Log.Filter) (hdisk : disk.root.WellNamed) :
    (execute o filter disk).disk.root.WellNamed := by
  cases hresult : ((scan o disk).conclude o).result with
  | error failure =>
    rw [execute_of_error hresult]
    exact hdisk
  | ok made =>
    have hemitted := emit_wellNamed o made.2 hdisk
    cases hemit : (emit o disk made.2).2.error with
    | some e =>
      rw [execute_of_emit_error hresult hemit]
      exact hemitted
    | none =>
      rw [execute_of_ok hresult hemit]
      exact hemitted

/-- The same files are scanned, to the same report, wherever the report is to go. -/
theorem result_withoutPath (h : ((scan o disk).conclude o).result = .ok (outcome, report)) :
    ((scan { o with reportOutput := none } disk).conclude { o with reportOutput := none }).result =
      .ok (outcome, report) :=
  result_eq_ok_iff.2 (result_eq_ok_iff.1 h)

/-! ## Runs -/

/-- The end of a command line that is not understood: the reason on standard error. -/
def Run.ofUsageError (disk : Disk) (e : UsageError) : Run where
  exitCode := 2
  diagnostics := [.failed ("error: " ++ e.message)]
  disk

/-- A run with whatever end it comes to. -/
def invoke (env : Environment) (arguments : List Bytes) (disk : Disk) : Run :=
  match run env arguments disk with
  | .ok run => run
  | .error e => .ofUsageError disk e

theorem invoke_of_parse_error {e : UsageError} (h : parse env arguments = .error e) (disk : Disk) :
    invoke env arguments disk = .ofUsageError disk e := by
  unfold invoke run
  rw [h]
  rfl

/-- Behind the arguments a run does what the execution of its options does. -/
theorem exists_invoke_eq (h : parse env arguments = .ok (.scan o)) (disk : Disk) :
    ∃ filter, (invoke env arguments disk).exitCode = (execute o filter disk).exitCode ∧
      (invoke env arguments disk).stdout = (execute o filter disk).stdout ∧
      (invoke env arguments disk).disk = (execute o filter disk).disk := by
  obtain ⟨filter, warnings, hrun⟩ := exists_run_eq h disk
  refine ⟨filter, ?_⟩
  unfold invoke
  rw [hrun]
  exact ⟨rfl, rfl, rfl⟩

/-- Behind a run the entries of every directory still have different names, so that it can be followed by
another one. -/
theorem invoke_wellNamed (env : Environment) (arguments : List Bytes) (hdisk : disk.root.WellNamed) :
    (invoke env arguments disk).disk.root.WellNamed := by
  cases hparse : parse env arguments with
  | error e =>
    rw [invoke_of_parse_error hparse]
    exact hdisk
  | ok request =>
    cases request with
    | help | version =>
      unfold invoke run
      rw [hparse]
      exact hdisk
    | scan o =>
      obtain ⟨filter, -, -, hafter⟩ := exists_invoke_eq hparse disk
      rw [hafter]
      exact execute_wellNamed o filter hdisk

/-- A run that does not ask for help or the version gives all of its output or nothing. If it fails,
standard output is empty and no regular file is changed. If it ends well, there is a report on the
outcome of the batch. Without a path for it, the report is on standard output, and no regular file is
changed. Otherwise standard output is empty, the path leads to a regular file with the report, no
other one is changed, and the report is what the same run without the path says, also when the file
is one of those that were scanned. There is such a run: the option can be dropped from the arguments,
and its variable from the environment. -/
theorem invoke_output_all_or_nothing (env : Environment) (arguments : List Bytes) (disk : Disk)
    (hhelp : parse env arguments ≠ .ok .help) (hversion : parse env arguments ≠ .ok .version) :
    ((invoke env arguments disk).exitCode ≠ 0 →
      (invoke env arguments disk).stdout = [] ∧
        disk.SameFiles (invoke env arguments disk).disk) ∧
    ((invoke env arguments disk).exitCode = 0 → ∃ o outcome report,
      parse env arguments = .ok (.scan o) ∧
      (o.batch disk.fileSystem).run o.path = .ok outcome ∧
      o.report outcome.files = .ok report ∧
      (o.reportOutput = none →
        (invoke env arguments disk).stdout = report ∧
          disk.SameFiles (invoke env arguments disk).disk) ∧
      ∀ path, o.reportOutput = some path →
        (invoke env arguments disk).stdout = [] ∧
        (∃ place permissions,
          (invoke env arguments disk).disk.target .use path = .ok (.found place) ∧
          (invoke env arguments disk).disk.node? place =
            some (.file (Utf8.encode report) permissions) ∧
          (∀ old oldPermissions, disk.node? place = some (.file old oldPermissions) →
            oldPermissions = permissions ∧ permissions.writable = true) ∧
          ∀ p ≠ place, ∀ content permissions,
            (invoke env arguments disk).disk.node? p = some (.file content permissions) ↔
              disk.node? p = some (.file content permissions)) ∧
        (∀ env' arguments',
          parse env' arguments' = .ok (.scan { o with reportOutput := none }) →
            (invoke env' arguments' disk).exitCode = 0 ∧
              (invoke env' arguments' disk).stdout = report) ∧
        (∃ arguments', DropsSetting .reportOutput arguments arguments') ∧
        ∀ env' arguments', DropsSetting .reportOutput arguments arguments' →
          (∀ name ≠ Setting.variableName .reportOutput, env'.lookup name = env.lookup name) →
          env'.lookup (Setting.variableName .reportOutput) = none →
            parse env' arguments' = .ok (.scan { o with reportOutput := none })) := by
  cases hparse : parse env arguments with
  | error e =>
    rw [invoke_of_parse_error hparse]
    exact ⟨fun _ => ⟨rfl, .refl disk⟩, nofun⟩
  | ok request =>
    cases request with
    | help => exact absurd hparse hhelp
    | version => exact absurd hparse hversion
    | scan o =>
      obtain ⟨filter, hexit, hstdout, hdisk⟩ := exists_invoke_eq hparse disk
      rw [hexit, hstdout, hdisk]
      refine ⟨execute_of_exitCode_ne_zero, fun hzero => ?_⟩
      obtain ⟨outcome, report, hresult, hemit⟩ := exists_of_exitCode_eq_zero hzero
      obtain ⟨-, hbatch, hreport⟩ := result_eq_ok_iff.1 hresult
      refine ⟨o, outcome, report, rfl, hbatch, hreport, fun hnone => ?_, fun path hpath => ?_⟩
      · rw [execute_of_ok hresult hemit, emit_of_stdout hnone]
        exact ⟨rfl, .refl disk⟩
      · rw [execute_of_ok hresult hemit]
        rw [emit_of_path hpath] at hemit ⊢
        refine ⟨rfl, Disk.exists_of_writeReport hemit, fun env' arguments' hparse' => ?_,
          exists_dropsSetting rfl hparse, fun env' arguments' hdrops henv hunset => ?_⟩
        · obtain ⟨filter', hexit', hstdout', -⟩ := exists_invoke_eq hparse' disk
          have hemit' : emit { o with reportOutput := none } disk report = (report, { disk }) :=
            emit_of_stdout rfl
          rw [hexit', hstdout', execute_of_ok (result_withoutPath hresult) (by rw [hemit']), hemit']
          exact ⟨rfl, rfl⟩
        · exact parse_dropsSetting hdrops (fun _ hne => henv _ (Setting.variableName_ne hne)) hunset
            hparse

/-- A directory `d` with a file `a`. -/
def scannedDisk : Disk where
  root := .directory [([0x64], .directory [([0x61], .file [0x78, 0x0A])] true)] true
  workingDirectory := []

def outputOptions (path : Option Path) : Options :=
  ⟨[0x64], defaultLang, defaultLocale, defaultJobs, path, false, false, false, false, false⟩

def outputEnvironment (path : Path) : Environment := [(Setting.variableName .reportOutput, path)]

theorem exists_result_outputOptions (path : Option Path) : ∃ outcome report,
    ((scan (outputOptions path) scannedDisk).conclude (outputOptions path)).result =
      .ok (outcome, report) := by
  have hdiscover : ((outputOptions path).batch scannedDisk.fileSystem).discover [0x64] =
      .ok [[0x64, 0x2F, 0x61]] := rfl
  have hjobs : defaultJobs ≤ maxPermits := by decide
  exact ⟨_, _, result_eq_ok_iff.2 ⟨hjobs, Batch.run_of_discover hdiscover, rfl⟩⟩

/-- The report goes over the file that it is on; it does not go over the directory. -/
theorem invoke_output_all_or_nothing_scannedPath :
    (∃ report,
      (invoke (outputEnvironment [0x64, 0x2F, 0x61]) [[0x64]] scannedDisk).stdout = [] ∧
      (invoke (outputEnvironment [0x64, 0x2F, 0x61]) [[0x64]] scannedDisk).disk.node?
        [[0x64], [0x61]] = some (.file (Utf8.encode report)) ∧
      (invoke [] [[0x64]] scannedDisk).stdout = report) ∧
    (invoke (outputEnvironment [0x64]) [[0x64]] scannedDisk).exitCode = 1 ∧
    (invoke (outputEnvironment [0x64]) [[0x64]] scannedDisk).stdout = [] ∧
    scannedDisk.SameFiles (invoke (outputEnvironment [0x64]) [[0x64]] scannedDisk).disk := by
  have hparse (path : Path) (h : path.isEmpty = false) :
      parse (outputEnvironment path) [[0x64]] = .ok (.scan (outputOptions (some path))) := by
    cases path with
    | nil => cases h
    | cons => rfl
  constructor
  · have hfile := hparse [0x64, 0x2F, 0x61] rfl
    obtain ⟨filter, hexit, -, hdisk⟩ := exists_invoke_eq hfile scannedDisk
    obtain ⟨outcome, report, hresult⟩ := exists_result_outputOptions (some [0x64, 0x2F, 0x61])
    rw [execute_of_ok hresult rfl] at hexit hdisk
    obtain ⟨-, hok⟩ := invoke_output_all_or_nothing (outputEnvironment [0x64, 0x2F, 0x61]) [[0x64]]
      scannedDisk (by rw [hfile]; exact nofun) (by rw [hfile]; exact nofun)
    obtain ⟨o, outcome, report, ho, -, -, -, hpath⟩ := hok hexit
    cases hfile.symm.trans ho
    obtain ⟨hstdout, ⟨place, permissions, htarget, hwritten, hkept, -⟩, hsame, -, hdropped⟩ :=
      hpath _ rfl
    have hnone : parse [] [[0x64]] = .ok (.scan (outputOptions none)) := by
      refine hdropped [] [[0x64]] (.omitted (.inr ⟨by decide, trivial⟩)) (fun name hname => ?_) rfl
      unfold outputEnvironment
      rw [List.lookup_cons, beq_false_of_ne hname]
    -- Whatever was written, the path leads to the file in the directory.
    have hplace : (invoke (outputEnvironment [0x64, 0x2F, 0x61]) [[0x64]] scannedDisk).disk.target
        .use [0x64, 0x2F, 0x61] = .ok (.found [[0x64], [0x61]]) := by
      rw [hdisk]
      rfl
    cases hplace.symm.trans htarget
    obtain ⟨rfl, -⟩ := hkept [0x78, 0x0A] {} rfl
    exact ⟨report, hstdout, hwritten, (hsame [] [[0x64]] hnone).2⟩
  · have hdirectory := hparse [0x64] rfl
    obtain ⟨filter, hexit, -, -⟩ := exists_invoke_eq hdirectory scannedDisk
    obtain ⟨outcome, report, hresult⟩ := exists_result_outputOptions (some [0x64])
    rw [execute_of_emit_error hresult rfl] at hexit
    obtain ⟨hfail, -⟩ := invoke_output_all_or_nothing (outputEnvironment [0x64]) [[0x64]]
      scannedDisk (by rw [hdirectory]; exact nofun) (by rw [hdirectory]; exact nofun)
    have hne : (invoke (outputEnvironment [0x64]) [[0x64]] scannedDisk).exitCode ≠ 0 := by
      rw [hexit]
      exact nofun
    exact ⟨hexit, hfail hne⟩

end SourceGrade.CommandLine
