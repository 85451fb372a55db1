import SourceGrade.Proofs.Language.Content
import SourceGrade.Proofs.Signals.Concatenation
import SourceGrade.Proofs.Text.LineEnding
import SourceGrade.Score

/-!
# Scores and line endings

Whether lines end in a line feed alone or with a carriage return in front of it makes no difference
to a score.
-/

namespace SourceGrade

theorem Signals.any_contains_withCarriageReturns {markers : List Text}
    (hmarkers : ∀ marker ∈ markers, ∀ c ∈ marker, Text.isBreak c = false)
    (hne : ∀ marker ∈ markers, marker ≠ []) (text : Text) :
    markers.any text.withCarriageReturns.contains = markers.any text.contains :=
  any_congr_of_mem fun marker hmem =>
    Text.contains_withCarriageReturns (hmarkers marker hmem) (hne marker hmem) text

theorem Signals.ofText_withCarriageReturns {text : Text} (hbare : '\r' ∉ text) :
    ofText text.withCarriageReturns = ofText text := by
  have hlines := Text.lines_withCarriageReturns hbare
  have hdangerous :=
    Pattern.findAll_withCarriageReturns separate_dangerousCall isBreak_dangerousCall text
  have hdeclarations :=
    Pattern.findAll_withCarriageReturns separate_declaration isBreak_declaration text
  have hloops := Pattern.findAll_withCarriageReturns separate_loop isBreak_loop text
  have htests := any_contains_withCarriageReturns isBreak_testMarkers (by decide +kernel) text
  have herrors :=
    any_contains_withCarriageReturns isBreak_errorHandlingMarkers (by decide +kernel) text
  have hlast := Text.getLast?_withCarriageReturns text
  simp only [ofText, hlines, hdangerous, hdeclarations, hloops, htests, herrors, hlast]

theorem Language.ofContent_withCarriageReturns (text : Text) :
    ofContent text.withCarriageReturns = ofContent text :=
  ofContent_congr fun row hrow word hword =>
    Text.contains_withCarriageReturns (isBreak_keywords row hrow word hword)
      (ne_nil_keywords row hrow word hword) text

/-- A text without carriage returns keeps its score, with all that belongs to it, when every line
feed is replaced by a carriage return and a line feed. -/
theorem Score.ofText_crlf (text : Text) (hint : LanguageHint) (fileName : Option Path)
    (hbare : '\r' ∉ text) :
    ofText text.withCarriageReturns hint fileName = ofText text hint fileName := by
  rw [ofText, ofText, Signals.ofText_withCarriageReturns hbare,
    LanguageHint.choose_congr (Language.ofContent_withCarriageReturns text)]

/-- An empty line, a break of another kind and a keyword right behind a line feed. -/
theorem Score.ofText_crlf_blankLine :
    '\r' ∉ "# x\n\n\u2028\ndef f():\n".toList ∧
    Text.withCarriageReturns "# x\n\n\u2028\ndef f():\n".toList =
      "# x\r\n\r\n\u2028\r\ndef f():\r\n".toList ∧
    ofText "# x\r\n\r\n\u2028\r\ndef f():\r\n" .auto none =
      ofText "# x\n\n\u2028\ndef f():\n" .auto none := by
  have hbare : '\r' ∉ "# x\n\n\u2028\ndef f():\n".toList := by decide +kernel
  have htext : Text.withCarriageReturns "# x\n\n\u2028\ndef f():\n".toList =
      "# x\r\n\r\n\u2028\r\ndef f():\r\n".toList := by decide +kernel
  have hscore := ofText_crlf _ .auto none hbare
  rw [htext] at hscore
  exact ⟨hbare, htext, hscore⟩

end SourceGrade
