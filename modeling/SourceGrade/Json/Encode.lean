import SourceGrade.Json.Printer
import SourceGrade.Score

/-!
# Scores as JSON

Each type as a JSON value. Only a path can fail: JSON has no way to write one that is not UTF-8.
-/

namespace SourceGrade

def Language.toJson (language : Language) : Json := .string language.tag

def Suggestion.toJson (suggestion : Suggestion) : Json := .string suggestion.message

def Signals.toJson (s : Signals) : Json :=
  .object
    [("lines", .nat s.lines), ("avg_line_len", .double s.averageLength),
      ("comment_lines", .nat s.commentLines), ("functions", .nat s.functions),
      ("loops", .nat s.loops), ("dangerous_calls", .nat s.dangerousCalls),
      ("dangerous_matches", .array (s.dangerousMatches.map .string)),
      ("has_tests", .bool s.hasTests), ("has_error_handling", .bool s.hasErrorHandling),
      ("trailing_newline", .bool s.trailingNewline)]

def Breakdown.toJson (b : Breakdown) : Json :=
  .object (b.entries.map fun (name, value) => (name, .nat value))

namespace Score

def members (s : Score) : List (Text × Json) :=
  [("language", s.language.toJson), ("total", .nat s.total), ("shit_index", .nat s.shitIndex),
    ("breakdown", s.breakdown.toJson), ("suggestions", .array (s.suggestions.map Suggestion.toJson)),
    ("signals", s.signals.toJson)]

def toJson (s : Score) : Json := .object s.members

end Score

/-- Why a value has no JSON form. -/
inductive EncodeError where
  | pathNotUtf8
deriving DecidableEq

def EncodeError.message : EncodeError → Text
  | pathNotUtf8 => "path contains invalid UTF-8 characters"

namespace ScoredFile

def toJson (file : ScoredFile) : Except EncodeError Json :=
  match Utf8.decode? file.path with
  | some path => .ok (.object (("path", .string path) :: file.score.members))
  | none => .error .pathNotUtf8

/-- All files as one array, or an error if one of them has no JSON form. -/
def allToJson (files : List ScoredFile) : Except EncodeError Json := .array <$> files.mapM toJson

end ScoredFile

end SourceGrade
