import SourceGrade.Proofs.Batch.Run
import SourceGrade.Proofs.CommandLine.Output
import SourceGrade.Proofs.Disk.Errors
import SourceGrade.Proofs.Json.Files
import SourceGrade.Proofs.Path.Join
import SourceGrade.Proofs.Text.Decoding

/-!
# The notes on skipped files

Every skipped file has a note, closed by a line feed. The reasons that a disk gives stay on one line, but
the paths are shown as they are: one with line feeds splits its note, and a part of a name can pass for
the note on another file. The lines are those of the files, one for each, exactly if there is no line feed
in their paths; then they say as well which paths are skipped for which reasons (`skipped_lines`).
-/

namespace SourceGrade

/-! ## Lines -/

/-- The lines of a text that are closed by a line feed. -/
def Text.closedLines (text : Text) : List Text := (pieces '\n' text).dropLast

theorem Text.closedLines_flatMap (texts : List Text) :
    closedLines (texts.flatMap (· ++ ['\n'])) = texts.flatMap (pieces '\n') := by
  rw [closedLines, pieces_flatMap, List.dropLast_concat]

def Path.lineFeed : UInt8 := 0x0A

/-- A path is shown with as many line feeds as it has. -/
theorem Path.count_display (path : Path) : path.display.count '\n' = path.count lineFeed :=
  (Utf8.reads_decode path).count_eq (by decide : '\n'.toNat < 0x80)

theorem Path.display_ofText (text : Text) : (ofText text).display = text :=
  Utf8.decode_of_decode? (Utf8.decode?_eq_some_iff.2 rfl)

/-! ## Notes -/

namespace Skipped

variable {file other : Skipped}

/-- The note on a skipped file, without the line feed behind it. -/
def note (file : Skipped) : Text := "skipping " ++ file.path.display ++ ": " ++ file.reason

/-- What a note says: a path as it is shown and a reason. -/
def shown (file : Skipped) : Text × Text := (file.path.display, file.reason)

def OnOneLine (file : Skipped) : Prop := Path.lineFeed ∉ file.path ∧ '\n' ∉ file.reason

/-- The reason is one that a disk gives. -/
def OfDisk (file : Skipped) : Prop := ∃ e : IoError, e.OfDisk ∧ file.reason = (Fault.io e).message

theorem note_eq (file : Skipped) :
    file.note = "skipping ".toList ++ file.path.display ++ ": ".toList ++ file.reason := rfl

theorem count_note (file : Skipped) :
    file.note.count '\n' = file.path.count Path.lineFeed + file.reason.count '\n' := by
  have hskipping : "skipping ".toList.count '\n' = 0 := List.count_eq_zero.2 (by simp)
  have hcolon : ": ".toList.count '\n' = 0 := List.count_eq_zero.2 (by simp)
  rw [note_eq, List.count_append, List.count_append, List.count_append, hskipping, hcolon,
    Path.count_display, Nat.zero_add, Nat.add_zero]

theorem pieces_note (h : file.OnOneLine) : pieces '\n' file.note = [file.note] := by
  apply pieces_of_notMem
  rw [← List.count_eq_zero, count_note, List.count_eq_zero.2 h.1, List.count_eq_zero.2 h.2]

theorem OfDisk.onOneLine_iff (h : file.OfDisk) : file.OnOneLine ↔ Path.lineFeed ∉ file.path := by
  obtain ⟨e, he, hreason⟩ := h
  have hmessage := he.lineFeed_notMem
  have hline : '\n' ∉ file.reason := by simp [hreason, Fault.message_io, hmessage]
  exact and_iff_left hline

theorem note_of_shown (h : file.shown = other.shown) : file.note = other.note := by
  obtain ⟨hpath, hreason⟩ := Prod.mk.inj h
  rw [note_eq, note_eq, hpath, hreason]

/-- Whatever a path looks like, the reason behind it is told from the end of the note. -/
theorem OfDisk.shown_of_note (h : file.OfDisk) (h' : other.OfDisk) (hnote : file.note = other.note) :
    file.shown = other.shown := by
  obtain ⟨e, he, hreason⟩ := h
  obtain ⟨e', he', hreason'⟩ := h'
  have hends (shown : Text) (e : IoError) : "skipping ".toList ++ shown ++ ": ".toList ++
      (Fault.io e).message = "skipping ".toList ++ shown ++ ": io error: ".toList ++ e.message := by
    simp [Fault.message_io]
  rw [note_eq, note_eq, hreason, hreason', hends, hends] at hnote
  -- The paths are what is left when the errors are known to be the same.
  obtain ⟨hfront, rfl⟩ := he.append_message_inj he' hnote
  have hpath := List.append_cancel_left (List.append_cancel_right hfront)
  exact Prod.ext hpath (hreason.trans hreason'.symm)

end Skipped

namespace CommandLine

variable {o : Options} {disk : Disk} {files files' : List Skipped} {file : Skipped}

/-- What is written on skipped files. -/
def skippedText (filter : Log.Filter) (files : List Skipped) : Text :=
  (files.map Diagnostic.skipped).flatMap (·.render filter)

theorem skippedText_eq (filter : Log.Filter) (files : List Skipped) :
    skippedText filter files = (files.map Skipped.note).flatMap (· ++ ['\n']) := by
  rw [skippedText, List.flatMap_map, List.flatMap_map]
  rfl

/-- What is written on two files can be written on a single one. -/
theorem skippedText_pair (filter : Log.Filter) (path path' reason reason' : Text) :
    skippedText filter [⟨.ofText path, reason⟩, ⟨.ofText path', reason'⟩] =
      skippedText filter
        [⟨.ofText (path ++ ": ".toList ++ reason ++ "\nskipping ".toList ++ path'), reason'⟩] := by
  simp [skippedText_eq, Skipped.note_eq, Path.display_ofText]

/-- Every file has a line, and every line feed in a path or a reason makes one more. -/
theorem length_closedLines (filter : Log.Filter) (files : List Skipped) :
    (skippedText filter files).closedLines.length = files.length +
      (files.flatMap (·.path)).count Path.lineFeed + (files.flatMap (·.reason)).count '\n' := by
  rw [skippedText_eq, Text.closedLines_flatMap]
  induction files with
  | nil => rfl
  | cons file rest ih =>
    rw [List.map_cons, List.flatMap_cons, List.length_append, ih, length_pieces, file.count_note,
      List.length_cons, List.flatMap_cons, List.count_append, List.flatMap_cons, List.count_append]
    omega

theorem closedLines_of_onOneLine (filter : Log.Filter) (h : ∀ file ∈ files, file.OnOneLine) :
    (skippedText filter files).closedLines = files.map Skipped.note := by
  rw [skippedText_eq, Text.closedLines_flatMap]
  induction files with
  | nil => rfl
  | cons file rest ih =>
    rw [List.forall_mem_cons] at h
    rw [List.map_cons, List.flatMap_cons, Skipped.pieces_note h.1, ih h.2, List.singleton_append]

theorem length_closedLines_eq_iff (filter : Log.Filter) (files : List Skipped) :
    (skippedText filter files).closedLines.length = files.length ↔
      ∀ file ∈ files, file.OnOneLine := by
  constructor
  · intro h file hfile
    -- No line is left over for a line feed.
    rw [length_closedLines] at h
    have hpaths : (files.flatMap (·.path)).count Path.lineFeed = 0 := by omega
    have hreasons : (files.flatMap (·.reason)).count '\n' = 0 := by omega
    rw [List.count_eq_zero] at hpaths hreasons
    exact ⟨fun hmem => hpaths (List.mem_flatMap.2 ⟨file, hfile, hmem⟩),
      fun hmem => hreasons (List.mem_flatMap.2 ⟨file, hfile, hmem⟩)⟩
  · intro h
    rw [closedLines_of_onOneLine filter h, List.length_map]

theorem closedLines_eq_iff (filter : Log.Filter) (files : List Skipped) :
    (skippedText filter files).closedLines = files.map Skipped.note ↔
      ∀ file ∈ files, file.OnOneLine := by
  refine ⟨fun h => ?_, closedLines_of_onOneLine filter⟩
  rw [← length_closedLines_eq_iff filter, h, List.length_map]

/-- Where one image determines another one, so it does for lists. -/
theorem map_eq_of_map_eq {f : α → β} {g : α → γ} {list list' : List α}
    (hfg : ∀ a ∈ list, ∀ b ∈ list', f a = f b → g a = g b) (h : list.map f = list'.map f) :
    list.map g = list'.map g := by
  induction list generalizing list' with
  | nil => rw [List.map_eq_nil_iff.1 h.symm]
  | cons a rest ih =>
    cases list' with
    | nil => cases h
    | cons b rest' =>
      obtain ⟨hfirst, hrest⟩ := List.cons.inj h
      have hg : g a = g b := hfg a List.mem_cons_self b List.mem_cons_self hfirst
      have hbehind : rest.map g = rest'.map g := ih (fun a ha b hb =>
        hfg a (List.mem_cons_of_mem _ ha) b (List.mem_cons_of_mem _ hb)) hrest
      rw [List.map_cons, List.map_cons, hg, hbehind]

/-- Notes on files of a disk that stay on their lines say which paths are skipped for which reasons. -/
theorem skippedText_eq_iff (filter : Log.Filter) (hdisk : ∀ file ∈ files, file.OfDisk)
    (hdisk' : ∀ file ∈ files', file.OfDisk) (hlines : ∀ file ∈ files, file.OnOneLine)
    (hlines' : ∀ file ∈ files', file.OnOneLine) :
    skippedText filter files = skippedText filter files' ↔
      files.map Skipped.shown = files'.map Skipped.shown := by
  constructor
  · intro htext
    have hnotes := congrArg Text.closedLines htext
    rw [closedLines_of_onOneLine filter hlines, closedLines_of_onOneLine filter hlines'] at hnotes
    exact map_eq_of_map_eq (fun a ha b hb => (hdisk a ha).shown_of_note (hdisk' b hb)) hnotes
  · intro hshown
    have hnotes := map_eq_of_map_eq (fun _ _ _ _ => Skipped.note_of_shown) hshown
    rw [skippedText_eq, skippedText_eq, hnotes]

/-! ## Runs -/

/-- The files that a scan skips, none if it fails. -/
def Scan.skipped (scan : Scan) : List Skipped :=
  match scan.attempts with
  | .ok attempts => (Outcome.ofAttempts attempts).skipped
  | .error _ => []

theorem diagnostics_conclude (o : Options) (scan : Scan) :
    (scan.conclude o).diagnostics = scan.diagnostics ++ scan.skipped.map .skipped := by
  unfold Scan.conclude Scan.skipped
  cases scan.attempts with
  | ok attempts => rfl
  | error failure => exact (List.append_nil _).symm

/-- Behind what is said of a scan, one more thing is said of the run. -/
theorem exists_diagnostics_execute (o : Options) (filter : Log.Filter) (disk : Disk) :
    ∃ last, (execute o filter disk).diagnostics =
      ((scan o disk).conclude o).diagnostics ++ [last] ∧ (execute o filter disk).filter = filter := by
  cases hresult : ((scan o disk).conclude o).result with
  | error failure =>
    rw [execute_of_error hresult]
    exact ⟨_, rfl, rfl⟩
  | ok made =>
    cases hemit : (emit o disk made.2).2.error with
    | some e =>
      rw [execute_of_emit_error hresult hemit]
      exact ⟨_, rfl, rfl⟩
    | none =>
      rw [execute_of_ok hresult hemit]
      exact ⟨_, rfl, rfl⟩

theorem exists_stderr_execute (o : Options) (filter : Log.Filter) (disk : Disk) :
    ∃ last : Diagnostic, ∀ thread, (execute o filter disk).stderr thread =
      (scan o disk).diagnostics.flatMap (·.render filter thread) ++
        skippedText filter (scan o disk).skipped ++ last.render filter thread := by
  obtain ⟨last, hdiagnostics, hfilter⟩ := exists_diagnostics_execute o filter disk
  refine ⟨last, fun thread => ?_⟩
  rw [Run.stderr, hdiagnostics, hfilter, diagnostics_conclude, List.flatMap_append,
    List.flatMap_append, List.flatMap_singleton, skippedText, List.flatMap_map, List.flatMap_map]
  rfl

theorem ofDisk_of_mem_skipped (h : file ∈ (scan o disk).skipped) : file.OfDisk := by
  unfold Scan.skipped at h
  cases hpaths : (o.batch disk.fileSystem).discover o.path with
  | error fault =>
    rw [scan_of_discover_error hpaths] at h
    cases h
  | ok paths =>
    rw [scan_of_discover hpaths] at h
    by_cases hjobs : o.jobs ≤ maxPermits
    · rw [attempts_eq_map _ paths hjobs] at h
      obtain ⟨fault, hread, hreason⟩ := Batch.reason_of_mem_skipped h
      obtain ⟨e, he, hfault⟩ := Disk.exists_of_readText hread
      exact ⟨e, he, hfault ▸ hreason⟩
    · rw [attempts_eq_error _ paths hjobs] at h
      cases h

/-- The text on skipped files is their notes, each one closed by a line feed. It has a line more for every
line feed in a path or a reason, so that its lines are the notes exactly if there is none, and with a line
feed in the path a single file can have the lines of two. In a run the text is written in one piece
behind what is said of the scan, and only paths can have line feeds. Where they have none, the text says
which paths, as they are shown, were skipped for which reasons. -/
theorem skipped_lines (filter : Log.Filter) :
    (∀ files : List Skipped,
      skippedText filter files = (files.map Skipped.note).flatMap (· ++ ['\n']) ∧
      (skippedText filter files).closedLines.length = files.length +
        (files.flatMap (·.path)).count Path.lineFeed + (files.flatMap (·.reason)).count '\n' ∧
      ((skippedText filter files).closedLines.length = files.length ↔
        ∀ file ∈ files, file.OnOneLine) ∧
      ((skippedText filter files).closedLines = files.map Skipped.note ↔
        ∀ file ∈ files, file.OnOneLine)) ∧
    (∀ path path' reason reason' : Text,
      skippedText filter [⟨.ofText path, reason⟩, ⟨.ofText path', reason'⟩] =
        skippedText filter
          [⟨.ofText (path ++ ": ".toList ++ reason ++ "\nskipping ".toList ++ path'), reason'⟩]) ∧
    ∀ (o : Options) (disk : Disk),
      (∃ last : Diagnostic, ∀ thread, (execute o filter disk).stderr thread =
        (scan o disk).diagnostics.flatMap (·.render filter thread) ++
          skippedText filter (scan o disk).skipped ++ last.render filter thread) ∧
      (∀ file ∈ (scan o disk).skipped, file.OnOneLine ↔ Path.lineFeed ∉ file.path) ∧
      ∀ (o' : Options) (disk' : Disk),
        (∀ file ∈ (scan o disk).skipped ++ (scan o' disk').skipped, Path.lineFeed ∉ file.path) →
        (skippedText filter (scan o disk).skipped = skippedText filter (scan o' disk').skipped ↔
          (scan o disk).skipped.map Skipped.shown = (scan o' disk').skipped.map Skipped.shown) := by
  refine ⟨fun files => ?_, skippedText_pair filter, ?_⟩
  · exact ⟨skippedText_eq filter files, length_closedLines filter files,
      length_closedLines_eq_iff filter files, closedLines_eq_iff filter files⟩
  · intro o disk
    have honeLine : ∀ file ∈ (scan o disk).skipped, file.OnOneLine ↔ Path.lineFeed ∉ file.path :=
      fun _ hfile => (ofDisk_of_mem_skipped hfile).onOneLine_iff
    refine ⟨exists_stderr_execute o filter disk, honeLine, fun o' disk' hpaths => ?_⟩
    rw [List.forall_mem_append] at hpaths
    apply skippedText_eq_iff filter
    · exact fun _ => ofDisk_of_mem_skipped
    · exact fun _ => ofDisk_of_mem_skipped
    · exact fun file hfile => (honeLine file hfile).2 (hpaths.1 file hfile)
    · exact fun file hfile =>
        (ofDisk_of_mem_skipped hfile).onOneLine_iff.2 (hpaths.2 file hfile)

/-- A directory `d` with the given entries. -/
def listedDisk (entries : List (Bytes × Node)) : Disk where
  root := .directory [([0x64], .directory entries true)] true
  workingDirectory := []

def missingReason : Text := "io error: No such file or directory (os error 2)"

/-- A link that leads nowhere, as it is skipped. -/
def danglingFile (path : Text) : Skipped := ⟨.ofText path, missingReason⟩

/-- Two links that lead nowhere. -/
def danglingDisk : Disk := listedDisk [([0x61], .link [0x67]), ([0x62], .link [0x67])]

/-- The name of the first link reads like a path and a reason. -/
def lookalikeDisk : Disk :=
  listedDisk [(Path.ofText ("a: ".toList ++ missingReason), .link [0x67]), ([0x62], .link [0x67])]

/-- The name of the directory above the only link goes on with the beginning of another note. -/
def forgedDisk : Disk :=
  listedDisk [(Path.ofText ("a: ".toList ++ missingReason ++ "\nskipping d".toList),
    .directory [([0x62], .link [0x67])] true)]

/-- One link has the lines of two. A name without line feeds is no more than a name. -/
theorem skipped_lines_forged :
    (scan (outputOptions none) forgedDisk).skipped.length = 1 ∧
    (skippedText (.ofDirectives [] none)
      (scan (outputOptions none) forgedDisk).skipped).closedLines.length = 2 ∧
    skippedText (.ofDirectives [] none) (scan (outputOptions none) danglingDisk).skipped =
      skippedText (.ofDirectives [] none) (scan (outputOptions none) forgedDisk).skipped ∧
    (∀ file ∈ (scan (outputOptions none) danglingDisk).skipped ++
      (scan (outputOptions none) lookalikeDisk).skipped, Path.lineFeed ∉ file.path) ∧
    skippedText (.ofDirectives [] none) (scan (outputOptions none) danglingDisk).skipped ≠
      skippedText (.ofDirectives [] none) (scan (outputOptions none) lookalikeDisk).skipped := by
  have hforged : (scan (outputOptions none) forgedDisk).skipped =
      [danglingFile ("d/a".toList ++ ": ".toList ++ missingReason ++ "\nskipping ".toList ++
        "d/b".toList)] := by decide +kernel
  have hdangling : (scan (outputOptions none) danglingDisk).skipped =
      [danglingFile "d/a".toList, danglingFile "d/b".toList] := by decide +kernel
  have hlookalike : (scan (outputOptions none) lookalikeDisk).skipped =
      [danglingFile ("d/a: ".toList ++ missingReason), danglingFile "d/b".toList] := by
    decide +kernel
  have hpaths : ∀ file ∈ (scan (outputOptions none) danglingDisk).skipped ++
      (scan (outputOptions none) lookalikeDisk).skipped, Path.lineFeed ∉ file.path := by
    rw [hdangling, hlookalike]
    decide +kernel
  obtain ⟨hfiles, hpair, hruns⟩ := skipped_lines (.ofDirectives [] none)
  have hsame : skippedText (.ofDirectives [] none) (scan (outputOptions none) danglingDisk).skipped =
      skippedText (.ofDirectives [] none) (scan (outputOptions none) forgedDisk).skipped := by
    rw [hdangling, hforged]
    exact hpair "d/a".toList "d/b".toList missingReason missingReason
  obtain ⟨-, honeLine, htell⟩ := hruns (outputOptions none) danglingDisk
  refine ⟨by rw [hforged]; rfl, ?_, hsame, hpaths, fun htext => ?_⟩
  · have hlines : ∀ file ∈ (scan (outputOptions none) danglingDisk).skipped, file.OnOneLine :=
      fun file hfile => (honeLine file hfile).2 (hpaths file (List.mem_append_left _ hfile))
    rw [← hsame, (hfiles _).2.2.1.2 hlines, hdangling]
    rfl
  · have hshown := (htell (outputOptions none) lookalikeDisk hpaths).1 htext
    rw [hdangling, hlookalike] at hshown
    have hpath := congrArg Prod.fst (List.cons.inj hshown).1
    have hlength := congrArg List.length hpath
    simp [danglingFile, Skipped.shown, Path.display_ofText] at hlength

end CommandLine

end SourceGrade
