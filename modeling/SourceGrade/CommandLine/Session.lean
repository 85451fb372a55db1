import SourceGrade.CommandLine.Diagnostic
import SourceGrade.CommandLine.Options
import SourceGrade.Json.Encode
import SourceGrade.Report.Text
import SourceGrade.Workers

/-!
# Sessions

What a run makes of its options and the attempts at the discovered files: its diagnostics, and the
report or the reason why there is none.
-/

namespace SourceGrade.CommandLine

/-- Why a run ends without a report. -/
inductive Failure where
  | fault (fault : Fault)
  | tooManyWorkers
  | encoding (error : EncodeError)
  | output (error : IoError)
deriving DecidableEq

namespace Failure

def exitCode : Failure → Nat
  | tooManyWorkers => 101
  | _ => 1

def message : Failure → Text
  | fault (.io error) => "Error: Io(" ++ error.details ++ ")"
  | fault (.other message) => "Error: Other(" ++ Json.quote message ++ ")"
  | tooManyWorkers =>
    "a semaphore may not have more than MAX_PERMITS permits (" ++ Text.ofNat maxPermits ++ ")"
  | encoding error => "Error: Error(\"" ++ error.message ++ "\", line: 0, column: 0)"
  | output error => "Error: " ++ error.details

/-- Where the semaphore of the workers is told how many permits it has. -/
def semaphorePlace : Text :=
  "/usr/local/cargo/registry/src/index.crates.io-1949cf8c6b5b557f/tokio-1.54.1/src/sync/" ++
    "batch_semaphore.rs:148:9"

/-- What is said at the end. Too many workers are no error that is answered, but a panic. -/
def diagnostic : Failure → Diagnostic
  | tooManyWorkers => .panicked semaphorePlace tooManyWorkers.message
  | failure => .failed failure.message

end Failure

namespace Options

def batch (o : Options) (fileSystem : FileSystem) : Batch where
  fileSystem
  hint := .parse o.lang
  sorted := o.sort

def isConcurrent (o : Options) : Bool := 1 < o.jobs

/-- The report of the scored files: JSON with a line feed, or text. -/
def report (o : Options) (files : List ScoredFile) : Except Failure Text :=
  if o.json then
    match ScoredFile.allToJson files with
    | .ok json => .ok (json.pretty ++ "\n")
    | .error e => .error (.encoding e)
  else .ok (Report.ofFiles files o.locale ⟨o.summary, o.markdown⟩)

/-- The notes before the first file is scored. -/
def openingNotes (o : Options) (events : List WalkEvent) (paths : List Path) : List Diagnostic :=
  events.filterMap Diagnostic.ofEvent? ++ [.discovered o.path paths.length] ++
    if o.isConcurrent then [.workers paths.length o.jobs] else []

def scoringNotes (o : Options) (attempts : List Attempt) : List Diagnostic :=
  if o.isConcurrent then Diagnostic.ofWorkers attempts else Diagnostic.ofSequence attempts

/-- There are no more workers than permits. -/
def checkWorkers (o : Options) : Except Failure Unit :=
  if o.isConcurrent ∧ maxPermits < o.jobs then .error .tooManyWorkers else .ok ()

/-- Makes the attempts at the discovered files, several at a time if that is asked for. -/
def attempts (o : Options) (b : Batch) (paths : List Path) : Except Failure (List Attempt) := do
  o.checkWorkers
  return if o.isConcurrent then b.attemptConcurrently o.jobs paths else paths.map b.attempt

end Options

/-- What a scan comes to: its diagnostics, and the attempts unless it fails. -/
structure Scan where
  diagnostics : List Diagnostic
  attempts : Except Failure (List Attempt)

namespace Scan

/-- The scan that could not discover any files. -/
def failed (fault : Fault) : Scan := ⟨[], .error (.fault fault)⟩

/-- The scan of discovered files. -/
def ofAttempts (o : Options) (events : List WalkEvent) (paths : List Path)
    (attempts : Except Failure (List Attempt)) : Scan where
  diagnostics := o.openingNotes events paths ++ ((attempts.map o.scoringNotes).toOption.getD [])
  attempts

end Scan

/-- What is to be said and to be written behind a scan. -/
structure Conclusion where
  diagnostics : List Diagnostic
  result : Except Failure (Outcome × Text)

/-- The outcome of a scan and the report on it, or the first failure. Every skipped file gets a line. -/
def Scan.conclude (o : Options) (scan : Scan) : Conclusion :=
  match scan.attempts with
  | .error failure => ⟨scan.diagnostics, .error failure⟩
  | .ok attempts =>
    let outcome := Outcome.ofAttempts attempts
    { diagnostics := scan.diagnostics ++ outcome.skipped.map .skipped
      result := (o.report outcome.files).map fun report => (outcome, report) }

end SourceGrade.CommandLine
