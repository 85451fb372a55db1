import SourceGrade.Proofs.CommandLine.Execution
import SourceGrade.Proofs.Disk.FileSystem
import SourceGrade.Proofs.Json.Files

/-!
# Reports on standard output

A run that writes its report to standard output scores every discovered file that can be read, and
notes the others. As text, the report has an entry for each of them. As JSON, it has none for any of
them as soon as one of their paths is not UTF-8.
-/

namespace SourceGrade

/-- The skipped file that a diagnostic is about. -/
def CommandLine.Diagnostic.skipped? : Diagnostic → Option Skipped
  | skipped file => some file
  | _ => none

namespace CommandLine

variable {o : Options} {disk : Disk} {env : Environment} {arguments : List Bytes}

/-! ## Diagnostics on skipped files -/

theorem skipped?_of_mem_openingNotes {events : List WalkEvent} {paths : List Path}
    {d : Diagnostic} (h : d ∈ o.openingNotes events paths) : d.skipped? = none := by
  unfold Options.openingNotes at h
  rw [List.mem_append, List.mem_append, List.mem_filterMap] at h
  rcases h with (⟨event, -, hevent⟩ | hdiscovered) | hworkers
  · cases event with
    | file path => cases hevent
    | linkedDirectory path => exact Option.some.inj hevent ▸ rfl
    | unlistable directory error => exact Option.some.inj hevent ▸ rfl
  · exact List.mem_singleton.1 hdiscovered ▸ rfl
  · split at hworkers
    · exact List.mem_singleton.1 hworkers ▸ rfl
    · cases hworkers

theorem skipped?_of_scoring? {attempt : Attempt} {d : Diagnostic}
    (h : Diagnostic.scoring? attempt = some d ∨ Diagnostic.skipping? attempt = some d) :
    d.skipped? = none := by
  unfold Diagnostic.scoring? Diagnostic.skipping? at h
  cases hresult : attempt.result with
  | ok file =>
    simp only [hresult, Option.some.injEq, reduceCtorEq, or_false] at h
    exact h ▸ rfl
  | error fault =>
    simp only [hresult, Option.some.injEq, reduceCtorEq, false_or] at h
    exact h ▸ rfl

theorem skipped?_of_mem_scoringNotes {attempts : List Attempt} {d : Diagnostic}
    (h : d ∈ o.scoringNotes attempts) : d.skipped? = none := by
  unfold Options.scoringNotes at h
  split at h
  · rw [Diagnostic.ofWorkers, List.mem_append, List.mem_filterMap, List.mem_filterMap] at h
    rcases h with ⟨attempt, -, hnote⟩ | ⟨attempt, -, hnote⟩
    · exact skipped?_of_scoring? (Or.inl hnote)
    · exact skipped?_of_scoring? (Or.inr hnote)
  · rw [Diagnostic.ofSequence, List.mem_flatMap] at h
    obtain ⟨attempt, -, hnote⟩ := h
    rw [List.mem_append, Option.mem_toList, Option.mem_toList] at hnote
    exact skipped?_of_scoring? hnote

theorem skipped?_diagnostic (failure : Failure) : failure.diagnostic.skipped? = none := by
  cases failure <;> rfl

theorem skipped?_of_mem_scan {d : Diagnostic} (h : d ∈ (scan o disk).diagnostics) :
    d.skipped? = none := by
  cases hpaths : (o.batch disk.fileSystem).discover o.path with
  | error fault =>
    rw [scan_of_discover_error hpaths] at h
    cases h
  | ok paths =>
    obtain ⟨events, hscan⟩ := exists_scan_eq hpaths
    rw [hscan] at h
    rcases List.mem_append.1 h with hopening | hscoring
    · exact skipped?_of_mem_openingNotes hopening
    · revert hscoring
      cases o.attempts (o.batch disk.fileSystem) paths with
      | error failure => exact nofun
      | ok attempts => exact skipped?_of_mem_scoringNotes

/-- Of all that is said behind a scan, the lines on skipped files are those of the outcome. -/
theorem filterMap_skipped?_conclude {attempts : List Attempt}
    (h : (scan o disk).attempts = .ok attempts) :
    ((scan o disk).conclude o).diagnostics.filterMap Diagnostic.skipped? =
      (Outcome.ofAttempts attempts).skipped := by
  have hscan : (scan o disk).diagnostics.filterMap Diagnostic.skipped? = [] :=
    List.filterMap_eq_nil_iff.2 fun _ => skipped?_of_mem_scan
  unfold Scan.conclude
  rw [h, List.filterMap_append, hscan, List.nil_append, List.filterMap_map]
  exact List.filterMap_some

/-! ## Discovery -/

/-- Only a root directory that cannot be listed keeps its files from being discovered. -/
theorem exists_discover (b : Batch) (disk : Disk) (hfileSystem : b.fileSystem = disk.fileSystem)
    {root : Path} (hroot : disk.isDirectory root = true → (disk.list root).isOk = true) :
    ∃ paths, b.discover root = .ok paths := by
  have hkind : b.fileSystem.isDirectory root = disk.isDirectory root := by
    rw [hfileSystem]
    rfl
  unfold Batch.discover
  rw [hkind]
  cases hdirectory : disk.isDirectory root with
  | false => exact ⟨_, rfl⟩
  | true =>
    cases hlist : disk.list root with
    | error e =>
      have hok := hroot hdirectory
      rw [hlist] at hok
      cases hok
    | ok listing =>
      rw [hfileSystem, Disk.listFiles_of_list hlist]
      exact ⟨_, rfl⟩

/-- What can be read are the files that may be read. -/
theorem canRead_iff (disk : Disk) (path : Path) : disk.fileSystem.canRead path = true ↔
    ∃ content permissions, disk.find path = .ok (.file content permissions) ∧
      permissions.readable = true := by
  show ((Utf8.decode <$> disk.readFile path).mapError Fault.io).isOk = true ↔ _
  unfold Disk.readFile
  cases disk.find path with
  | error e => exact ⟨nofun, fun ⟨_, _, h, _⟩ => nomatch h⟩
  | ok node =>
    cases node with
    | link | directory => exact ⟨nofun, fun ⟨_, _, h, _⟩ => nomatch h⟩
    | file content permissions =>
      obtain ⟨readable, writable⟩ := permissions
      cases readable with
      | false =>
        refine ⟨nofun, ?_⟩
        rintro ⟨_, _, ⟨⟩, h⟩
        cases h
      | true => exact ⟨fun _ => ⟨_, _, rfl, rfl⟩, fun _ => rfl⟩

/-! ## Reports -/

theorem report_of_text {files : List ScoredFile} (hjson : o.json = false) :
    o.report files = .ok (Report.ofFiles files o.locale ⟨o.summary, o.markdown⟩) := by
  unfold Options.report
  rw [hjson]
  rfl

theorem report_of_json {files : List ScoredFile} (hjson : o.json = true)
    (hfiles : ∀ file ∈ files, (Utf8.decode? file.path).isSome = true) :
    o.report files = .ok ((Json.array (files.map ScoredFile.entry)).pretty ++ "\n".toList) := by
  unfold Options.report
  rw [hjson, ScoredFile.allToJson_of_forall hfiles]
  rfl

theorem report_of_json_error {files : List ScoredFile} (hjson : o.json = true)
    (hfiles : ∃ file ∈ files, Utf8.decode? file.path = none) :
    o.report files = .error (.encoding .pathNotUtf8) := by
  unfold Options.report
  rw [hjson, ScoredFile.allToJson_of_exists hfiles]
  rfl

/-- A run whose root can be listed, with no more workers than permits, ends well and reports on every
discovered file that can be read, in the order of discovery; the others are only noted as skipped.
The one exception is JSON with the path of such a file not in UTF-8: then the run fails, and none of
the files is reported on. -/
theorem run_reports_readable_files (disk : Disk) (hparse : parse env arguments = .ok (.scan o))
    (hstdout : o.reportOutput = none) (hjobs : o.jobs ≤ maxPermits)
    (hroot : disk.isDirectory o.path = true → (disk.list o.path).isOk = true) :
    ∃ paths files run, (o.batch disk.fileSystem).discover o.path = .ok paths ∧
      CommandLine.run env arguments disk = .ok run ∧
      files.map ScoredFile.path = paths.filter disk.fileSystem.canRead ∧
      (∀ file ∈ files, ∃ text, disk.fileSystem.readText file.path = .ok text ∧
        file.score = .ofText text (.parse o.lang) (some file.path)) ∧
      (run.diagnostics.filterMap Diagnostic.skipped?).map Skipped.path =
        paths.filter (fun path => !disk.fileSystem.canRead path) ∧
      (o.json = false →
        run.exitCode = 0 ∧
          run.stdout = Report.ofFiles files o.locale ⟨o.summary, o.markdown⟩) ∧
      (o.json = true → (∀ file ∈ files, (Utf8.decode? file.path).isSome = true) →
        run.exitCode = 0 ∧
          run.stdout = (Json.array (files.map ScoredFile.entry)).pretty ++ "\n".toList) ∧
      (o.json = true → (∃ file ∈ files, Utf8.decode? file.path = none) →
        run.exitCode = 1 ∧ run.stdout = []) := by
  obtain ⟨paths, hpaths⟩ := exists_discover (o.batch disk.fileSystem) disk rfl hroot
  obtain ⟨filter, warnings, hrun⟩ := exists_run_eq hparse disk
  have hattempts := (scan_of_discover hpaths).trans (attempts_eq_map _ paths hjobs)
  have hresult := result_of_attempts hattempts
  have hskipped := filterMap_skipped?_conclude hattempts
  have hnotes : ∀ last : Diagnostic, last.skipped? = none →
      ((warnings.map Diagnostic.warning ++ (((scan o disk).conclude o).diagnostics ++ [last])).filterMap
        Diagnostic.skipped?).map Skipped.path =
      paths.filter (fun path => !disk.fileSystem.canRead path) := by
    intro last hlast
    have hwarnings : (warnings.map Diagnostic.warning).filterMap Diagnostic.skipped? = [] := by
      rw [List.filterMap_map]
      exact List.filterMap_eq_nil_iff.2 fun _ _ => rfl
    rw [List.filterMap_append, hwarnings, List.nil_append, List.filterMap_append, hskipped,
      List.filterMap_cons_none hlast, List.filterMap_nil, List.append_nil]
    exact Batch.map_path_skipped (o.batch disk.fileSystem) paths
  -- Without a path for the report, bringing it to its place cannot fail.
  have hemit : ∀ report, emit o disk report = (report, { disk }) := by
    intro report
    unfold emit
    rw [hstdout]
  refine ⟨paths, _, _, hpaths, hrun, Batch.map_path_files (o.batch disk.fileSystem) paths,
    fun file => Batch.score_of_mem_files, ?_, ?_, ?_, ?_⟩
  · cases hreport : ((scan o disk).conclude o).result with
    | error failure =>
      rw [execute_of_error hreport]
      exact hnotes failure.diagnostic (skipped?_diagnostic failure)
    | ok made =>
      rw [execute_of_ok hreport (by rw [hemit])]
      exact hnotes (.finished made.1) rfl
  · intro hjson
    rw [report_of_text hjson] at hresult
    rw [execute_of_ok hresult (by rw [hemit]), hemit]
    exact ⟨rfl, rfl⟩
  · intro hjson hutf8
    rw [report_of_json hjson hutf8] at hresult
    rw [execute_of_ok hresult (by rw [hemit]), hemit]
    exact ⟨rfl, rfl⟩
  · intro hjson hbad
    rw [report_of_json_error hjson hbad] at hresult
    rw [execute_of_error hresult]
    exact ⟨rfl, rfl⟩

/-- A directory `d` with a file `a`, a file whose name is not UTF-8, and a link `g` to nothing. -/
def mixedDisk : Disk where
  root := .directory [([0x64], .directory
    [([0x61], .file []), ([0xFF], .file []), ([0x67], .link [0x71])] true)] true
  workingDirectory := []

def mixedOptions (json : Bool) : Options :=
  ⟨[0x64], defaultLang, defaultLocale, defaultJobs, none, json, false, false, false, false⟩

theorem run_reports_readable_files_badName :
    (∃ files run, files.map ScoredFile.path = [[0x64, 0x2F, 0x61], [0x64, 0x2F, 0xFF]] ∧
      CommandLine.run [] [[0x64]] mixedDisk = .ok run ∧ run.exitCode = 0 ∧
      run.stdout = Report.ofFiles files defaultLocale {}) ∧
    (∃ run, CommandLine.run [] [Path.ofText "--json".toList, [0x64]] mixedDisk = .ok run ∧
      run.exitCode = 1 ∧ run.stdout = []) := by
  have hjobs : defaultJobs ≤ maxPermits := by decide
  have htext : parse [] [[0x64]] = .ok (.scan (mixedOptions false)) := rfl
  have hjson : parse [] [Path.ofText "--json".toList, [0x64]] = .ok (.scan (mixedOptions true)) :=
    rfl
  have hdiscover : ∀ json, ((mixedOptions json).batch mixedDisk.fileSystem).discover [0x64] =
      .ok [[0x64, 0x2F, 0x61], [0x64, 0x2F, 0xFF], [0x64, 0x2F, 0x67]] := fun _ => rfl
  have hread : [[0x64, 0x2F, 0x61], [0x64, 0x2F, 0xFF], [0x64, 0x2F, 0x67]].filter
      mixedDisk.fileSystem.canRead = [[0x64, 0x2F, 0x61], [0x64, 0x2F, 0xFF]] := rfl
  constructor
  · obtain ⟨paths, files, run, hpaths, hrun, hfiles, -, -, hreport, -, -⟩ :=
      run_reports_readable_files mixedDisk htext rfl hjobs fun _ => rfl
    cases hpaths.symm.trans (hdiscover false)
    exact ⟨files, run, hfiles.trans hread, hrun, hreport rfl⟩
  · obtain ⟨paths, files, run, hpaths, hrun, hfiles, -, -, -, -, hfails⟩ :=
      run_reports_readable_files mixedDisk hjson rfl hjobs fun _ => rfl
    cases hpaths.symm.trans (hdiscover true)
    have hbad : [0x64, 0x2F, 0xFF] ∈ files.map ScoredFile.path := by
      rw [hfiles, hread]
      decide
    obtain ⟨file, hmem, hpath⟩ := List.mem_map.1 hbad
    exact ⟨run, hrun, hfails rfl ⟨file, hmem, hpath ▸ rfl⟩⟩

end CommandLine

end SourceGrade
