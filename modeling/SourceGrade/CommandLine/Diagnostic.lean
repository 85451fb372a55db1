import SourceGrade.Batch
import SourceGrade.Log
import SourceGrade.Walk

/-!
# Diagnostics

What the program says besides its report: a line for every skipped file, warnings and the reason of
a failure, and log records as far as a filter lets them through. A run that panics says where and why,
and how to have a backtrace; one that is asked for is not shown.
-/

namespace SourceGrade.CommandLine

/-- The part of the program that a log record comes from. -/
inductive Reporter where
  | walk
  | batch
  | scorer
  | program
deriving DecidableEq

/-- The name that log filters know a part of the program by. -/
def Reporter.target : Reporter → Text
  | walk => "codemound_core::fs"
  | batch => "codemound_core::batch"
  | scorer => "codemound_core::scorer"
  | program => "codemound"

inductive Diagnostic where
  /-- A warning about the specification of the log filter. -/
  | warning (text : Text)
  | skipped (file : Skipped)
  /-- The last line of a run that fails. -/
  | failed (text : Text)
  /-- The end of a run that panics at a place of its code. -/
  | panicked (place message : Text)
  | log (record : Log.Record)
deriving DecidableEq

namespace Diagnostic

def debug (reporter : Reporter) (message : Text) : Diagnostic :=
  log ⟨.debug, reporter.target, message⟩

/-- The note of a walk on what it leaves out. -/
def ofEvent? : WalkEvent → Option Diagnostic
  | .file _ => none
  | .linkedDirectory path =>
    some (debug .walk ("not following directory link " ++ path.display))
  | .unlistable directory error =>
    some (log ⟨.warn, Reporter.walk.target,
      "cannot list " ++ directory.display ++ ": " ++ error.message⟩)

def discovered (root : Path) (count : Nat) : Diagnostic :=
  debug .batch
    ("discovered " ++ Text.ofNat count ++ " file(s) under " ++ root.display)

/-- The note on a file that has been read and is scored. -/
def scoring? (attempt : Attempt) : Option Diagnostic :=
  match attempt.result with
  | .ok file =>
    some (debug .scorer
      ("scoring " ++ attempt.path.display ++ " as " ++ file.score.language.tag))
  | .error _ => none

/-- The note on a file that is skipped. -/
def skipping? (attempt : Attempt) : Option Diagnostic :=
  match attempt.result with
  | .ok _ => none
  | .error fault =>
    some (debug .batch
      ("skipping " ++ attempt.path.display ++ ": " ++ fault.message))

/-- The notes of files scored one after the other. -/
def ofSequence (attempts : List Attempt) : List Diagnostic :=
  attempts.flatMap fun attempt => (scoring? attempt).toList ++ (skipping? attempt).toList

def workers (count jobs : Nat) : Diagnostic :=
  debug .program
    ("scoring " ++ Text.ofNat count ++ " file(s) on " ++ Text.ofNat jobs ++ " worker(s)")

/-- The notes of files scored at the same time: which ones are skipped is noted when all are done. -/
def ofWorkers (attempts : List Attempt) : List Diagnostic :=
  attempts.filterMap scoring? ++ attempts.filterMap skipping?

def finished (outcome : Outcome) : Diagnostic :=
  debug .program
    ("scored " ++ Text.ofNat outcome.files.length ++ " file(s), skipped " ++
      Text.ofNat outcome.skipped.length)

/-- The number that the system gives the thread of a program, unless it is known to be another one. -/
def mainThread : Nat := 19

/-- The text of a panic, behind an empty line. -/
def panicText (thread : Nat) (place message : Text) : Text :=
  "\nthread 'main' (" ++ Text.ofNat thread ++ ") panicked at " ++ place ++ ":\n" ++ message ++
    "\nnote: run with `RUST_BACKTRACE=1` environment variable to display a backtrace\n"

def render (filter : Log.Filter) (diagnostic : Diagnostic) (thread : Nat := mainThread) : Text :=
  match diagnostic with
  | warning text => text ++ "\n"
  | skipped file => "skipping " ++ file.path.display ++ ": " ++ file.reason ++ "\n"
  | failed text => text ++ "\n"
  | panicked place message => panicText thread place message
  | log record => if filter.allows record then record.line else []

end Diagnostic

/-- The log filter that the environment asks for, or else the one for the level of detail, and
warnings about its specification. -/
def logFilter (specification : Option Text) (verbose : Bool) : Log.Filter × List Text :=
  let level : Text := if verbose then "debug" else "warn"
  Log.Filter.parse (specification.getD level)

end SourceGrade.CommandLine
