import SourceGrade.Signals

/-!
# Suggestions

Hints for improvement, in a fixed order of triggers.
-/

namespace SourceGrade

inductive Suggestion where
  | linesTooLong
  | insufficientComments
  | dangerousCalls (calls : List Text)
  | missingTests
deriving DecidableEq

namespace Suggestion

/-- The suggestion in plain English. -/
def message : Suggestion → Text
  | linesTooLong => "lines too long, consider splitting"
  | insufficientComments => "insufficient comments"
  | dangerousCalls calls => "dangerous calls: " ++ Text.join ", " calls
  | missingTests => "missing tests"

/-- Lines longer than this on average are too long. -/
def longLineThreshold : Binary64 := .ofNat 100

/-- The least share of comment lines. -/
def minCommentRatio : Binary64 := .ofRatio false 1 20

/-- Each suggestion whose trigger the signals meet, in order. -/
def ofSignals (s : Signals) : List Suggestion :=
  (if longLineThreshold.lt s.averageLength then [linesTooLong] else []) ++
    (if (Binary64.ofNat s.commentLines).lt ((Binary64.ofNat s.lines).mul minCommentRatio) then
      [insufficientComments] else []) ++
    (if s.dangerousMatches.isEmpty then [] else [dangerousCalls s.dangerousMatches]) ++
    (if s.hasTests then [] else [missingTests])

end Suggestion

end SourceGrade
