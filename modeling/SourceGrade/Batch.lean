import SourceGrade.FileSystem
import SourceGrade.Path.Order
import SourceGrade.Score

/-!
# Batches

A batch discovers the files under a root and scores each one on its own: a file that cannot be read
is set aside with the reason, and the others are not affected. Only a root directory that cannot be
listed fails the batch.
-/

namespace SourceGrade

structure Skipped where
  path : Path
  reason : Text
deriving DecidableEq

/-- The scored and the skipped files of a batch, each in the order of discovery. -/
structure Outcome where
  files : List ScoredFile := []
  skipped : List Skipped := []
deriving DecidableEq

/-- What became of one discovered file. -/
structure Attempt where
  path : Path
  result : Except Fault ScoredFile

namespace Outcome

def record (o : Outcome) (attempt : Attempt) : Outcome :=
  match attempt.result with
  | .ok file => { o with files := o.files ++ [file] }
  | .error fault => { o with skipped := o.skipped ++ [⟨attempt.path, fault.message⟩] }

def ofAttempts (attempts : List Attempt) : Outcome := attempts.foldl record {}

end Outcome

structure Batch where
  fileSystem : FileSystem
  hint : LanguageHint := .auto
  sorted : Bool := false

namespace Batch

/-- The files under a root, or the root itself when it is not a directory. -/
def discover (b : Batch) (root : Path) : Except Fault (List Path) := do
  let found ← if b.fileSystem.isDirectory root then b.fileSystem.listFiles root else .ok [root]
  return if b.sorted then Path.sort found else found

def scoreFile (b : Batch) (path : Path) : Except Fault ScoredFile := do
  let text ← b.fileSystem.readText path
  return .ofText path text b.hint

def attempt (b : Batch) (path : Path) : Attempt := ⟨path, b.scoreFile path⟩

/-- Scores every discovered file, one after the other. -/
def run (b : Batch) (root : Path) : Except Fault Outcome := do
  let paths ← b.discover root
  return .ofAttempts (paths.map b.attempt)

end Batch

end SourceGrade
