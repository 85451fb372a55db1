import SourceGrade.Report.Labels
import SourceGrade.Score

/-!
# Text reports

A report opens with a header and the two scores. In full it goes on with the sub-scores and the
suggestions, or with an all-clear line when there are none.
-/

namespace SourceGrade.Report

structure Style where
  /-- Only the header and the two scores. -/
  summary : Bool := false
  /-- Markdown is asked for. Reports are markdown in any case. -/
  markdown : Bool := false

def heading (labels : Labels) (score : Score) : Text :=
  "## " ++ labels.header ++ " (" ++ score.language.tag ++ ")\n" ++
    "- " ++ labels.shitIndex ++ ": " ++ Text.ofNat score.shitIndex ++ "\n" ++
    "- " ++ labels.score ++ ": " ++ Text.ofNat score.total

def entryLine (entry : Text × Nat) : Text := "- " ++ entry.1 ++ ": " ++ Text.ofNat entry.2 ++ "\n"

def breakdownSection (b : Breakdown) : Text :=
  "\n\n### Breakdown\n" ++ b.entries.flatMap entryLine

def suggestionSection (labels : Labels) (suggestions : List Suggestion) : Text :=
  "\n" ++ labels.suggestions ++ ":" ++
    if suggestions.isEmpty then " " ++ labels.allClear
    else suggestions.flatMap fun suggestion => "\n- " ++ labels.message suggestion

def ofScore (score : Score) (locale : Text) (style : Style) : Text :=
  let labels := Labels.ofLocale locale
  if style.summary then heading labels score
  else
    heading labels score ++ breakdownSection score.breakdown ++
      suggestionSection labels score.suggestions

def rule : Text := List.replicate 40 '-'

/-- The reports of all files, each followed by a rule. -/
def ofFiles (files : List ScoredFile) (locale : Text) (style : Style) : Text :=
  files.flatMap fun file => ofScore file.score locale style ++ "\n\n" ++ rule ++ "\n\n"

end SourceGrade.Report
