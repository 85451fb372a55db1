import SourceGrade.Regex.Meaning
import SourceGrade.Regex.Parser
import SourceGrade.Regex.Search
import SourceGrade.Regex.Size

/-!
# From patterns to regular expressions

A text is a pattern unless it has a flaw or stands for too large an expression.
-/

namespace SourceGrade.Regex

/-- Why there is no regular expression. -/
inductive Error where
  | flawed (pattern : Text) (flaw : Flaw)
  | tooLarge

def Error.message : Error → Text
  | flawed pattern flaw => flaw.describe pattern
  | tooLarge => "Compiled regex exceeds size limit of " ++ Text.ofNat maxSize ++ " bytes."

/-- The regular expression that a pattern stands for, or its first flaw. -/
def ofPattern (pattern : Text) : Except Flaw Regex := do
  let tree ← Tree.ofText pattern
  let (r, _) ← tree.meaning.run {}
  return r

/-- The regular expression of a text. -/
def ofText (text : Text) : Except Error Regex :=
  match ofPattern text with
  | .error flaw => .error (.flawed text flaw)
  | .ok r => if r.isTooLarge then .error .tooLarge else .ok r

end SourceGrade.Regex
