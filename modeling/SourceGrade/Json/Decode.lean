import SourceGrade.Json.Record
import SourceGrade.Language.Basic
import SourceGrade.Breakdown

/-!
# Scores from JSON

Signals, sub-scores and languages read back from the form in which they are written.
-/

namespace SourceGrade

open Json (ReadError FieldKind FieldValue)

namespace Signals

def fields : Json.Fields :=
  [("lines", .count UInt64.size), ("avg_line_len", .number), ("comment_lines", .count UInt64.size),
    ("functions", .count UInt64.size), ("loops", .count UInt64.size),
    ("dangerous_calls", .count UInt64.size), ("dangerous_matches", .texts), ("has_tests", .flag),
    ("has_error_handling", .flag), ("trailing_newline", .flag)]

def ofFields? : List FieldValue → Option Signals
  | [.count lines, .number averageLength, .count commentLines, .count functions, .count loops,
      .count dangerousCalls, .texts dangerousMatches, .flag hasTests, .flag hasErrorHandling,
      .flag trailingNewline] =>
    some
      { lines, averageLength, commentLines, functions, loops, dangerousCalls, dangerousMatches,
        hasTests, hasErrorHandling, trailingNewline }
  | _ => none

def ofJson (text : Text) : Except ReadError Signals := do
  let values ← Json.readAll (Json.readRecord fields) text
  match ofFields? values with
  | some signals => .ok signals
  | none => .error .mismatch

end Signals

namespace Breakdown

def fields : Json.Fields :=
  let names : List Text :=
    ["readability", "maintainability", "robustness", "performance", "security", "testability",
      "consistency"]
  names.map fun name => (name, .count UInt32.size)

def ofFields? : List FieldValue → Option Breakdown
  | [.count readability, .count maintainability, .count robustness, .count performance,
      .count security, .count testability, .count consistency] =>
    some
      { readability, maintainability, robustness, performance, security, testability, consistency }
  | _ => none

def ofJson (text : Text) : Except ReadError Breakdown := do
  let values ← Json.readAll (Json.readRecord fields) text
  match ofFields? values with
  | some breakdown => .ok breakdown
  | none => .error .mismatch

end Breakdown

/-- A language is a string, its tag. -/
def Language.ofJson (text : Text) : Except ReadError Language :=
  .ofTag <$> Json.readAll Json.readText text

end SourceGrade
