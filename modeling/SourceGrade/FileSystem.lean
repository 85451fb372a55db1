import SourceGrade.Fault
import SourceGrade.Path.Basic

/-!
# File systems

What a batch needs to know of files and directories, as long as nothing in them changes.
-/

namespace SourceGrade

structure FileSystem where
  isDirectory : Path → Bool
  /-- Every entry below a directory that is not a directory itself. -/
  listFiles : Path → Except Fault (List Path)
  /-- The contents of a file, ill-formed parts replaced. -/
  readText : Path → Except Fault Text

end SourceGrade
