import SourceGrade.CommandLine.Arguments
import SourceGrade.CommandLine.Help
import SourceGrade.CommandLine.Session
import SourceGrade.Disk.Change
import SourceGrade.Disk.FileSystem

/-!
# Runs

A run of the program on a disk. Files are scanned before anything is written, and nothing goes to
standard output when the report has a path of its own.
-/

namespace SourceGrade.CommandLine

structure Run where
  exitCode : Nat := 0
  stdout : Text := []
  diagnostics : List Diagnostic := []
  filter : Log.Filter := .ofDirectives [] none
  /-- The disk behind the run. -/
  disk : Disk

namespace Run

/-- What goes to standard error. Only the text of a panic has the number of the thread. -/
def stderr (run : Run) (thread : Nat := Diagnostic.mainThread) : Text :=
  run.diagnostics.flatMap (·.render run.filter thread)

end Run

/-- Discovers and scores the files under the path. -/
def scan (o : Options) (disk : Disk) : Scan :=
  let batch := o.batch disk.fileSystem
  match batch.discover o.path with
  | .error fault => .failed fault
  | .ok paths =>
    let events := if disk.isDirectory o.path then (disk.walk o.path).toOption.getD [] else []
    .ofAttempts o events paths (o.attempts batch paths)

/-- Brings the report to its path or to standard output. -/
def emit (o : Options) (disk : Disk) (report : Text) : Text × Disk.Changed :=
  match o.reportOutput with
  | none => (report, { disk })
  | some path => ([], disk.writeReport path (Utf8.encode report))

/-- Scans, reports and writes; the first failure ends the run. -/
def execute (o : Options) (filter : Log.Filter) (disk : Disk) : Run :=
  let conclusion := (scan o disk).conclude o
  let fail (disk : Disk) (failure : Failure) : Run :=
    { exitCode := failure.exitCode
      diagnostics := conclusion.diagnostics ++ [failure.diagnostic]
      filter, disk }
  match conclusion.result with
  | .error failure => fail disk failure
  | .ok (outcome, report) =>
    let (stdout, changed) := emit o disk report
    match changed.error with
    | some e => fail changed.disk (.output e)
    | none =>
      { stdout
        diagnostics := conclusion.diagnostics ++ [.finished outcome]
        filter
        disk := changed.disk }

def logVariable : Text := "RUST_LOG"

/-- The specification of the log filter. One that is not UTF-8 counts as absent. -/
def logSpecification (env : Environment) : Option Text :=
  (env.lookup logVariable).bind Utf8.decode?

/-- Runs the program with the given arguments and environment on a disk. -/
def run (env : Environment) (arguments : List Bytes) (disk : Disk) : Except UsageError Run := do
  match ← parse env arguments with
  | .help => return { stdout := helpText env, disk }
  | .version => return { stdout := versionText, disk }
  | .scan options =>
    let (filter, warnings) := logFilter (logSpecification env) options.verbose
    let run := execute options filter disk
    return { run with diagnostics := warnings.map .warning ++ run.diagnostics }

end SourceGrade.CommandLine
