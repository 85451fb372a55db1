import SourceGrade.Proofs.Score.Exact
import SourceGrade.Proofs.Score.Words
import SourceGrade.Report.Text

/-!
# Suggestions and sub-scores

Each suggestion is computed beside the sub-score that it explains, from other signals or with another
threshold. For the signals of a text the two agree: what is suggested costs points, and an all-clear
is given only where nothing is missing.
-/

namespace SourceGrade

/-! ## Triggers -/

namespace Suggestion

variable {s : Signals} {calls : List Text}

theorem dangerousCalls_mem_ofSignals :
    dangerousCalls calls ∈ ofSignals s ↔ s.dangerousMatches ≠ [] ∧ calls = s.dangerousMatches := by
  simp [ofSignals]

theorem missingTests_mem_ofSignals : missingTests ∈ ofSignals s ↔ s.hasTests = false := by
  simp [ofSignals]

/-- Every suggestion comes once at most, and in the order of the triggers. -/
theorem ofSignals_sublist (s : Signals) : (ofSignals s).Sublist
    [linesTooLong, insufficientComments, dangerousCalls s.dangerousMatches, missingTests] := by
  have htriggered (trigger : Prop) [Decidable trigger] (suggestion : Suggestion) :
      (if trigger then [suggestion] else []).Sublist [suggestion] := by
    split
    · exact List.Sublist.refl _
    · exact List.nil_sublist _
  have hspared (trigger : Prop) [Decidable trigger] (suggestion : Suggestion) :
      (if trigger then [] else [suggestion]).Sublist [suggestion] := by
    rw [← ite_not]
    exact htriggered _ suggestion
  exact (((htriggered _ linesTooLong).append (htriggered _ insufficientComments)).append
    (hspared _ (dangerousCalls s.dangerousMatches))).append (hspared _ missingTests)

theorem signals_of_ofSignals_eq_nil (h : ofSignals s = []) :
    s.dangerousMatches = [] ∧ s.hasTests = true := by
  constructor
  · by_contra hcalls
    have hmem := dangerousCalls_mem_ofSignals.2 ⟨hcalls, rfl⟩
    rw [h] at hmem
    cases hmem
  · by_contra htests
    have hmem := missingTests_mem_ofSignals.2 (Bool.eq_false_iff.2 htests)
    rw [h] at hmem
    cases hmem

end Suggestion

/-! ## Sub-scores -/

namespace Breakdown

variable {s : Signals} {total : Nat}

theorem testability_lt_iff : (ofSignals s).testability < 10 ↔ s.hasTests = false := by
  cases h : s.hasTests <;> simp [ofSignals, h]

theorem testability_eq (htests : s.hasTests = true) : (ofSignals s).testability = 10 :=
  if_pos htests

/-- A mean beyond a hundred costs twenty points. -/
theorem readability_eq_zero (havg : s.averageLength = Signals.meanLength total s.lines)
    (htotal : total ≤ 2 ^ 40) (hlines : s.lines ≤ 2 ^ 40) (hcomments : s.commentLines ≤ 2 ^ 40)
    (hlong : .linesTooLong ∈ Suggestion.ofSignals s) : (ofSignals s).readability = 0 := by
  rw [Suggestion.linesTooLong_iff havg htotal hlines] at hlong
  have hreadability := cast_readability havg htotal hlines hcomments
  have hquotient : 20 ≤ total / (5 * max s.lines 1) := by
    rw [Nat.le_div_iff_mul_le (by omega)]
    omega
  omega

end Breakdown

/-! ## Reports -/

namespace Report

variable {labels : Labels} {suggestions : List Suggestion} {score : Score} {locale : Text}

/-- Stands in place of the suggestions when there are none. -/
def allClearSection (labels : Labels) : Text :=
  "\n" ++ labels.suggestions ++ ": " ++ labels.allClear

/-- A suggestion begins a line of its own. -/
theorem suggestionSection_eq_allClear_iff :
    suggestionSection labels suggestions = allClearSection labels ↔ suggestions = [] := by
  cases suggestions with
  | nil => simp [suggestionSection, allClearSection]
  | cons first rest => simp [suggestionSection, allClearSection]

theorem breakdownSection_ne_nil (b : Breakdown) : breakdownSection b ≠ [] :=
  List.append_ne_nil_of_left_ne_nil (by decide) _

/-- Whatever the style, a report closes with the all-clear line only if there are no suggestions. -/
theorem suggestions_of_ofScore_eq {style : Style}
    (h : ofScore score locale style = heading (.ofLocale locale) score ++
      breakdownSection score.breakdown ++ allClearSection (.ofLocale locale)) :
    score.suggestions = [] := by
  unfold ofScore at h
  dsimp only at h
  split at h
  · -- A summary has nothing behind its heading.
    rw [List.append_assoc, List.self_eq_append_right] at h
    exact absurd (List.append_eq_nil_iff.1 h).1 (breakdownSection_ne_nil _)
  · exact suggestionSection_eq_allClear_iff.1 (List.append_cancel_left h)

end Report

/-! ## Scores -/

namespace Score

/-- Risky calls are suggested if and only if they cost points, missing tests likewise, and long lines
only where readability is lost altogether. The suggestions come in one order, and only a text that is
secure and tested is given the all-clear. -/
theorem ofText_suggestions_agree (text : Text) (hint : LanguageHint) (fileName : Option Path)
    (hsize : (Utf8.encode text).length ≤ Nat.pow 2 33) :
    let score := ofText text hint fileName
    let b := score.breakdown
    let found := score.signals.dangerousMatches
    ((∃ calls, .dangerousCalls calls ∈ score.suggestions) ↔ b.security < 10) ∧
      (∀ calls, .dangerousCalls calls ∈ score.suggestions →
        calls = found ∧ calls ≠ [] ∧ (b.security : ℤ) = max 0 (10 - 2 * (calls.length : ℤ))) ∧
      (.missingTests ∈ score.suggestions ↔ b.testability < 10) ∧
      (.linesTooLong ∈ score.suggestions → b.readability = 0) ∧
      score.suggestions.Sublist
        [.linesTooLong, .insufficientComments, .dangerousCalls found, .missingTests] ∧
      ∀ locale style,
        Report.ofScore score locale style = Report.heading (.ofLocale locale) score ++
            Report.breakdownSection b ++ Report.allClearSection (.ofLocale locale) →
          b.security = 10 ∧ b.testability = 10 := by
  intro score b found
  have hsmall : (Signals.ofText text).Small := Signals.small_ofText hsize
  have hsecurity : (b.security : ℤ) = max 0 (10 - 2 * (found.length : ℤ)) :=
    Breakdown.cast_security hsmall
  have hfound : found = [] ↔ b.security = 10 := by
    rw [← List.length_eq_zero_iff]
    omega
  refine ⟨?_, fun calls hcalls => ?_, ?_, fun hlong => ?_, Suggestion.ofSignals_sublist _,
    fun locale style hreport => ?_⟩
  · constructor
    · rintro ⟨calls, hcalls⟩
      have hne := mt hfound.2 (Suggestion.dangerousCalls_mem_ofSignals.1 hcalls).1
      omega
    · intro hlt
      exact ⟨found, Suggestion.dangerousCalls_mem_ofSignals.2 ⟨mt hfound.1 hlt.ne, rfl⟩⟩
  · obtain ⟨hne, rfl⟩ := Suggestion.dangerousCalls_mem_ofSignals.1 hcalls
    exact ⟨rfl, hne, hsecurity⟩
  · exact Suggestion.missingTests_mem_ofSignals.trans Breakdown.testability_lt_iff.symm
  · have hlines := hsmall.lines_le
    have hcomments := hsmall.commentLines_le
    have htotal : Signals.totalLength text.lines ≤ 2 ^ 33 :=
      (Signals.totalLength_lines_le text).trans ((Utf8.length_le_length_encode text).trans hsize)
    exact Breakdown.readability_eq_zero rfl (by omega) (by omega) (by omega) hlong
  · obtain ⟨hcalls, htests⟩ :=
      Suggestion.signals_of_ofSignals_eq_nil (Report.suggestions_of_ofScore_eq hreport)
    exact ⟨hfound.1 hcalls, Breakdown.testability_eq htests⟩

/-- A text that gives rise to every suggestion, and one that is given the all-clear. -/
theorem ofText_suggestions_agree_extremes :
    let poor : Text := "eval(md5(".toList ++ List.replicate 100 'a' ++ "))".toList
    let clear : Text := "# it(1)\n".toList
    let b := (ofText poor .auto none).breakdown
    let b' := (ofText clear .auto none).breakdown
    ((Utf8.encode poor).length ≤ Nat.pow 2 33 ∧ (Utf8.encode clear).length ≤ Nat.pow 2 33) ∧
      (ofText poor .auto none).suggestions = [.linesTooLong, .insufficientComments,
        .dangerousCalls (["eval", "md5"] : List Text), .missingTests] ∧
      (b.readability = 0 ∧ (b.security : ℤ) = max 0 (10 - 2 * 2) ∧ b.testability < 10) ∧
      Report.ofScore (ofText clear .auto none) "en-US" {} =
        Report.heading (.ofLocale "en-US") (ofText clear .auto none) ++ Report.breakdownSection b' ++
          Report.allClearSection (.ofLocale "en-US") ∧
      b'.security = 10 ∧ b'.testability = 10 := by
  intro poor clear b b'
  have hpoor : (Utf8.encode poor).length ≤ Nat.pow 2 33 := by decide +kernel
  have hclear : (Utf8.encode clear).length ≤ Nat.pow 2 33 := by decide +kernel
  have hall : (ofText poor .auto none).suggestions = [.linesTooLong, .insufficientComments,
      .dangerousCalls (["eval", "md5"] : List Text), .missingTests] := by decide +kernel
  have hreport : Report.ofScore (ofText clear .auto none) "en-US" {} =
      Report.heading (.ofLocale "en-US") (ofText clear .auto none) ++ Report.breakdownSection b' ++
        Report.allClearSection (.ofLocale "en-US") := by decide +kernel
  obtain ⟨-, hcalls, htests, hlong, -⟩ := ofText_suggestions_agree poor .auto none hpoor
  obtain ⟨-, -, -, -, -, hspared⟩ := ofText_suggestions_agree clear .auto none hclear
  rw [hall] at hcalls htests hlong
  have hsecurity := (hcalls (["eval", "md5"] : List Text) (by simp)).2.2
  exact ⟨⟨hpoor, hclear⟩, hall, ⟨hlong (by simp), hsecurity, htests.1 (by simp)⟩, hreport,
    hspared _ _ hreport⟩

end Score

end SourceGrade
