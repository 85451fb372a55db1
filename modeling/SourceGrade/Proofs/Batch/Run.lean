import SourceGrade.Batch

/-!
# Runs

A run scores the discovered files that can be read and skips the others, both in the order of
discovery. What it says of a file comes from the contents of this file alone.
-/

namespace SourceGrade

section
variable {f : α → Option β} {key : β → α}

/-- Where each image names what it comes from, the images name what has one, in order. -/
theorem map_filterMap_eq_filter (hkey : ∀ a b, f a = some b → key b = a) (list : List α) :
    (list.filterMap f).map key = list.filter fun a => (f a).isSome := by
  rw [List.map_filterMap, ← List.filterMap_eq_filter]
  apply congrArg (List.filterMap · list)
  funext a
  cases hfa : f a with
  | none => simp [Option.guard, hfa]
  | some b => simp [Option.guard, hfa, hkey a b hfa]

/-- Where each image names what it comes from, a test of these names can be made before. -/
theorem filter_filterMap_eq (hkey : ∀ a b, f a = some b → key b = a) (keep : α → Bool)
    (list : List α) :
    (list.filterMap f).filter (fun b => keep (key b)) = (list.filter keep).filterMap f := by
  rw [List.filter_filterMap, List.filterMap_filter]
  apply congrArg (List.filterMap · list)
  funext a
  cases hfa : f a with
  | none => simp
  | some b => simp [Option.filter, hkey a b hfa]

end

def FileSystem.canRead (fs : FileSystem) (path : Path) : Bool := (fs.readText path).isOk

/-- The scored file that an attempt adds to the outcome. -/
def Attempt.scored? (attempt : Attempt) : Option ScoredFile := attempt.result.toOption

/-- The skipped file that an attempt adds to the outcome. -/
def Attempt.skipped? (attempt : Attempt) : Option Skipped :=
  match attempt.result with
  | .ok _ => none
  | .error fault => some ⟨attempt.path, fault.message⟩

namespace Outcome

/-- The entries whose paths pass the test `keep`. -/
def restrict (keep : Path → Bool) (o : Outcome) : Outcome where
  files := o.files.filter (keep ·.path)
  skipped := o.skipped.filter (keep ·.path)

theorem record_eq (o : Outcome) (attempt : Attempt) :
    o.record attempt =
      ⟨o.files ++ attempt.scored?.toList, o.skipped ++ attempt.skipped?.toList⟩ := by
  rcases attempt with ⟨path, file | fault⟩ <;>
    simp [record, Attempt.scored?, Attempt.skipped?, Except.toOption]

theorem foldl_record (attempts : List Attempt) (o : Outcome) :
    attempts.foldl record o =
      ⟨o.files ++ attempts.filterMap Attempt.scored?,
        o.skipped ++ attempts.filterMap Attempt.skipped?⟩ := by
  induction attempts generalizing o with
  | nil => simp
  | cons attempt rest ih =>
    rw [List.foldl_cons, ih, record_eq, List.filterMap_cons, List.filterMap_cons]
    cases attempt.scored? <;> cases attempt.skipped? <;> simp

theorem ofAttempts_eq (attempts : List Attempt) :
    ofAttempts attempts =
      ⟨attempts.filterMap Attempt.scored?, attempts.filterMap Attempt.skipped?⟩ :=
  foldl_record attempts {}

end Outcome

namespace Batch

variable {b : Batch} {root : Path} {paths : List Path}

theorem run_of_discover (hpaths : b.discover root = .ok paths) :
    b.run root = .ok (.ofAttempts (paths.map b.attempt)) := by
  rw [run, hpaths]
  rfl

theorem run_of_discover_error {fault : Fault} (hfault : b.discover root = .error fault) :
    b.run root = .error fault := by
  rw [run, hfault]
  rfl

/-! ## One attempt -/

theorem scored?_attempt_eq_some_iff {path : Path} {file : ScoredFile} :
    (b.attempt path).scored? = some file ↔
      ∃ text, b.fileSystem.readText path = .ok text ∧ .ofText path text b.hint = file := by
  unfold attempt scoreFile Attempt.scored?
  cases b.fileSystem.readText path <;>
    simp [Bind.bind, Except.bind, Pure.pure, Except.pure, Except.toOption]

theorem skipped?_attempt_eq_some_iff {path : Path} {skipped : Skipped} :
    (b.attempt path).skipped? = some skipped ↔
      ∃ fault, b.fileSystem.readText path = .error fault ∧ ⟨path, fault.message⟩ = skipped := by
  unfold attempt scoreFile Attempt.skipped?
  cases b.fileSystem.readText path <;> simp [Bind.bind, Except.bind, Pure.pure, Except.pure]

theorem isSome_scored?_attempt (path : Path) :
    (b.attempt path).scored?.isSome = b.fileSystem.canRead path := by
  rw [Bool.eq_iff_iff, Option.isSome_iff_exists, FileSystem.canRead]
  simp only [scored?_attempt_eq_some_iff]
  cases b.fileSystem.readText path <;> simp [Except.isOk, Except.toBool]

theorem isSome_skipped?_attempt (path : Path) :
    (b.attempt path).skipped?.isSome = !b.fileSystem.canRead path := by
  rw [Bool.eq_iff_iff, Option.isSome_iff_exists, FileSystem.canRead]
  simp only [skipped?_attempt_eq_some_iff]
  cases b.fileSystem.readText path <;> simp [Except.isOk, Except.toBool]

theorem path_of_scored? (b : Batch) (path : Path) (file : ScoredFile)
    (h : (b.attempt path).scored? = some file) : file.path = path := by
  rcases scored?_attempt_eq_some_iff.1 h with ⟨text, -, rfl⟩
  rfl

theorem path_of_skipped? (b : Batch) (path : Path) (skipped : Skipped)
    (h : (b.attempt path).skipped? = some skipped) : skipped.path = path := by
  rcases skipped?_attempt_eq_some_iff.1 h with ⟨fault, -, rfl⟩
  rfl

/-! ## All attempts -/

theorem ofAttempts_map_attempt (b : Batch) (paths : List Path) :
    Outcome.ofAttempts (paths.map b.attempt) =
      ⟨paths.filterMap fun path => (b.attempt path).scored?,
        paths.filterMap fun path => (b.attempt path).skipped?⟩ := by
  rw [Outcome.ofAttempts_eq, List.filterMap_map, List.filterMap_map]
  rfl

theorem map_path_files (b : Batch) (paths : List Path) :
    (Outcome.ofAttempts (paths.map b.attempt)).files.map ScoredFile.path =
      paths.filter b.fileSystem.canRead := by
  rw [ofAttempts_map_attempt]
  refine (map_filterMap_eq_filter b.path_of_scored? paths).trans ?_
  exact congrArg (List.filter · paths) (funext isSome_scored?_attempt)

theorem map_path_skipped (b : Batch) (paths : List Path) :
    (Outcome.ofAttempts (paths.map b.attempt)).skipped.map Skipped.path =
      paths.filter fun path => !b.fileSystem.canRead path := by
  rw [ofAttempts_map_attempt]
  refine (map_filterMap_eq_filter b.path_of_skipped? paths).trans ?_
  exact congrArg (List.filter · paths) (funext isSome_skipped?_attempt)

theorem length_files_add_length_skipped (b : Batch) (paths : List Path) :
    (Outcome.ofAttempts (paths.map b.attempt)).files.length +
      (Outcome.ofAttempts (paths.map b.attempt)).skipped.length = paths.length := by
  have hfiles := congrArg List.length (map_path_files b paths)
  have hskipped := congrArg List.length (map_path_skipped b paths)
  rw [List.length_map, ← List.countP_eq_length_filter] at hfiles hskipped
  rw [hfiles, hskipped, List.length_eq_countP_add_countP b.fileSystem.canRead]
  simp

theorem score_of_mem_files {file : ScoredFile}
    (hmem : file ∈ (Outcome.ofAttempts (paths.map b.attempt)).files) :
    ∃ text, b.fileSystem.readText file.path = .ok text ∧
      file.score = .ofText text b.hint (some file.path) := by
  rw [ofAttempts_map_attempt] at hmem
  rcases List.mem_filterMap.1 hmem with ⟨path, -, hscored⟩
  rcases scored?_attempt_eq_some_iff.1 hscored with ⟨text, htext, rfl⟩
  exact ⟨text, htext, rfl⟩

theorem reason_of_mem_skipped {skipped : Skipped}
    (hmem : skipped ∈ (Outcome.ofAttempts (paths.map b.attempt)).skipped) :
    ∃ fault, b.fileSystem.readText skipped.path = .error fault ∧
      skipped.reason = fault.message := by
  rw [ofAttempts_map_attempt] at hmem
  rcases List.mem_filterMap.1 hmem with ⟨path, -, hskipped⟩
  rcases skipped?_attempt_eq_some_iff.1 hskipped with ⟨fault, hfault, rfl⟩
  exact ⟨fault, hfault, rfl⟩

/-- The entries for some of the files are the outcome of a run over these files. -/
theorem restrict_ofAttempts (b : Batch) (keep : Path → Bool) (paths : List Path) :
    (Outcome.ofAttempts (paths.map b.attempt)).restrict keep =
      .ofAttempts ((paths.filter keep).map b.attempt) := by
  rw [ofAttempts_map_attempt, ofAttempts_map_attempt, Outcome.restrict, Outcome.mk.injEq]
  exact ⟨filter_filterMap_eq b.path_of_scored? keep paths,
    filter_filterMap_eq b.path_of_skipped? keep paths⟩

/-! ## Another file system -/

variable {other : FileSystem} {keep : Path → Bool}

theorem discover_congr (hdirectory : other.isDirectory root = b.fileSystem.isDirectory root)
    (hlist : other.listFiles root = b.fileSystem.listFiles root) :
    { b with fileSystem := other }.discover root = b.discover root := by
  rw [discover, discover, hdirectory, hlist]

theorem attempt_congr {path : Path} (hread : other.readText path = b.fileSystem.readText path) :
    { b with fileSystem := other }.attempt path = b.attempt path := by
  rw [attempt, attempt, scoreFile, scoreFile, hread]

theorem run_isolated (hdirectory : other.isDirectory root = b.fileSystem.isDirectory root)
    (hlist : other.listFiles root = b.fileSystem.listFiles root)
    (hread : ∀ path, keep path = true → other.readText path = b.fileSystem.readText path) :
    ({ b with fileSystem := other }.run root).map (Outcome.restrict keep) =
      (b.run root).map (Outcome.restrict keep) := by
  have hdiscover := discover_congr hdirectory hlist
  cases hpaths : b.discover root with
  | error fault =>
    rw [run_of_discover_error hpaths, run_of_discover_error (hdiscover.trans hpaths)]
  | ok paths =>
    have hattempts : (paths.filter keep).map { b with fileSystem := other }.attempt =
        (paths.filter keep).map b.attempt :=
      List.map_congr_left fun path hpath =>
        attempt_congr (hread path (List.mem_filter.1 hpath).2)
    rw [run_of_discover hpaths, run_of_discover (hdiscover.trans hpaths), Except.map, Except.map,
      restrict_ofAttempts, restrict_ofAttempts, hattempts]

/-- The outcome of a run has an entry for every discovered file, in order: the score of its contents
or the reason why there are none. File systems that differ in some files only, be it a single one,
have the same entries for all other files. -/
theorem run_partitions (b : Batch) (root : Path) :
    (∀ paths, b.discover root = .ok paths → ∃ o, b.run root = .ok o ∧
      o.files.map ScoredFile.path = paths.filter b.fileSystem.canRead ∧
      o.skipped.map Skipped.path = paths.filter (fun path => !b.fileSystem.canRead path) ∧
      o.files.length + o.skipped.length = paths.length ∧
      (∀ file ∈ o.files, ∃ text, b.fileSystem.readText file.path = .ok text ∧
        file.score = .ofText text b.hint (some file.path)) ∧
      (∀ skipped ∈ o.skipped, ∃ fault, b.fileSystem.readText skipped.path = .error fault ∧
        skipped.reason = fault.message)) ∧
    (∀ fault, b.discover root = .error fault → b.run root = .error fault) ∧
    (∀ (other : FileSystem) (keep : Path → Bool),
      other.isDirectory root = b.fileSystem.isDirectory root →
      other.listFiles root = b.fileSystem.listFiles root →
      (∀ path, keep path = true → other.readText path = b.fileSystem.readText path) →
      ({ b with fileSystem := other }.run root).map (Outcome.restrict keep) =
        (b.run root).map (Outcome.restrict keep)) := by
  refine ⟨fun paths hpaths => ?_, fun _ => run_of_discover_error, fun _ _ => run_isolated⟩
  exact ⟨.ofAttempts (paths.map b.attempt), run_of_discover hpaths, map_path_files b paths,
    map_path_skipped b paths, length_files_add_length_skipped b paths, fun _ => score_of_mem_files,
    fun _ => reason_of_mem_skipped⟩

/-- Lists one of its two files twice; the files of `denied` cannot be read. -/
def repeatedListing (denied : List Path) : FileSystem where
  isDirectory := fun _ => true
  listFiles := fun _ => .ok [[0x61], [0x62], [0x61]]
  readText := fun path => if path ∈ denied then .error (.other "denied") else .ok "md5(x)"

theorem readText_repeatedListing {denied : List Path} {path : Path} (hpath : path ∉ denied) :
    (repeatedListing denied).readText path = .ok "md5(x)" := if_neg hpath

theorem run_partitions_repeated :
    let b : Batch := { fileSystem := repeatedListing [[0x61]] }
    b.discover [] = .ok [[0x61], [0x62], [0x61]] ∧
    (∃ o, b.run [] = .ok o ∧ o.files.map ScoredFile.path = [[0x62]] ∧
      o.skipped.map Skipped.path = [[0x61], [0x61]]) ∧
    { fileSystem := { b.fileSystem with listFiles := fun _ => .error (.other "gone") } : Batch }.run
      [] = .error (.other "gone") ∧
    ({ b with fileSystem := repeatedListing [] }.run []).map (Outcome.restrict (· ≠ [0x61])) =
      (b.run []).map (Outcome.restrict (· ≠ [0x61])) := by
  intro b
  refine ⟨rfl, ?_, (run_partitions _ []).2.1 _ rfl, ?_⟩
  · rcases (run_partitions b []).1 _ rfl with ⟨o, hrun, hfiles, hskipped, -⟩
    exact ⟨o, hrun, hfiles, hskipped⟩
  · refine (run_partitions b []).2.2 _ _ rfl rfl fun path hpath => ?_
    have hdenied : path ∉ [[0x61]] := mt List.mem_singleton.1 (of_decide_eq_true hpath)
    exact (readText_repeatedListing List.not_mem_nil).trans (readText_repeatedListing hdenied).symm

end Batch

end SourceGrade
