import SourceGrade.Breakdown
import SourceGrade.Language.Detection
import SourceGrade.Suggestion

/-!
# Scores

The grade of one text: its sub-scores, their total, the index that counts what is missing to 100,
and the suggestions, together with the signals that all of them come from.
-/

namespace SourceGrade

structure Score where
  language : Language
  total : Nat
  /-- What is missing to 100; higher is worse. -/
  shitIndex : Nat
  breakdown : Breakdown
  suggestions : List Suggestion
  signals : Signals
deriving DecidableEq

namespace Score

def ofSignals (language : Language) (signals : Signals) : Score :=
  let breakdown := Breakdown.ofSignals signals
  { language
    total := breakdown.total
    shitIndex := 100 - breakdown.total
    breakdown
    suggestions := Suggestion.ofSignals signals
    signals }

def ofText (text : Text) (hint : LanguageHint) (fileName : Option Path) : Score :=
  ofSignals (hint.choose text fileName) (.ofText text)

end Score

/-- A score and the path of the file that it belongs to. -/
structure ScoredFile where
  path : Path
  score : Score
deriving DecidableEq

/-- The file with the given contents, scored. Its path takes part in the choice of the language. -/
def ScoredFile.ofText (path : Path) (text : Text) (hint : LanguageHint) : ScoredFile :=
  ⟨path, .ofText text hint (some path)⟩

end SourceGrade
