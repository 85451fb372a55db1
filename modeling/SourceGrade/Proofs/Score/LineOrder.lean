import Mathlib.Data.List.Forall2
import SourceGrade.Proofs.Language.Content
import SourceGrade.Proofs.Signals.Concatenation
import SourceGrade.Proofs.Text.Composition
import SourceGrade.Score

/-!
# Scores and the order of lines

The lines of a text may be put in any order: of its score only the order of the risky calls depends on
it, in the signals and in the suggestion on them.
-/

namespace SourceGrade

variable {lines lines' : List Text}

/-! ## Signals -/

namespace Signals

theorem any_contains_ofLines_of_perm {markers : List Text} (hperm : lines'.Perm lines)
    (hmarkers : ∀ marker ∈ markers, ∀ c ∈ marker, Text.isBreak c = false)
    (hne : ∀ marker ∈ markers, marker ≠ []) :
    markers.any (Text.ofLines lines').contains = markers.any (Text.ofLines lines).contains :=
  any_congr_of_mem fun marker hmem =>
    Text.contains_ofLines_of_perm hperm (hmarkers marker hmem) (hne marker hmem)

theorem totalLength_of_perm (hperm : lines'.Perm lines) :
    totalLength lines' = totalLength lines := by
  induction hperm with
  | nil => rfl
  | cons line _ ih => exact congrArg (line.trimEnd.length + ·) ih
  | swap line second rest => exact Nat.add_left_comm _ _ (totalLength rest)
  | trans _ _ ih ih' => exact ih.trans ih'

/-- All signals but the order of the risky calls. -/
theorem ofText_ofLines_of_perm (hlines : ∀ line ∈ lines, ∀ c ∈ line, Text.isBreak c = false)
    (hperm : lines'.Perm lines) :
    ofText (Text.ofLines lines') =
      { ofText (Text.ofLines lines) with
        dangerousMatches := (ofText (Text.ofLines lines')).dangerousMatches } := by
  have hlines' : ∀ line ∈ lines', ∀ c ∈ line, Text.isBreak c = false :=
    fun line hmem => hlines line (hperm.mem_iff.1 hmem)
  have hdangerous := Pattern.findAll_ofLines_perm hperm separate_dangerousCall isBreak_dangerousCall
  have hdeclarations := Pattern.findAll_ofLines_perm hperm separate_declaration isBreak_declaration
  have hloops := Pattern.findAll_ofLines_perm hperm separate_loop isBreak_loop
  have htests := any_contains_ofLines_of_perm hperm isBreak_testMarkers (by decide +kernel)
  have herrors := any_contains_ofLines_of_perm hperm isBreak_errorHandlingMarkers (by decide +kernel)
  have hempty : lines'.isEmpty = lines.isEmpty := by
    rw [Bool.eq_iff_iff, List.isEmpty_iff, List.isEmpty_iff]
    exact ⟨fun h => (h ▸ hperm).symm.eq_nil, fun h => (h ▸ hperm).eq_nil⟩
  -- The text is scanned whole for literals, and line by line for all else.
  simp only [ofText, Text.lines_ofLines hlines, Text.lines_ofLines hlines', Text.getLast?_ofLines,
    hperm.length_eq, totalLength_of_perm hperm, hperm.countP_eq isComment, hdangerous.length_eq,
    hdeclarations.length_eq, hloops.length_eq, htests, herrors, hempty]

end Signals

/-! ## Languages -/

theorem Language.ofContent_ofLines_of_perm (hperm : lines'.Perm lines) :
    ofContent (Text.ofLines lines') = ofContent (Text.ofLines lines) :=
  ofContent_congr fun row hrow word hword =>
    Text.contains_ofLines_of_perm hperm (isBreak_keywords row hrow word hword)
      (ne_nil_keywords row hrow word hword)

/-! ## Suggestions -/

namespace Suggestion

/-- Two suggestions that are the same but for the order of the risky calls. -/
inductive Reordered : Suggestion → Suggestion → Prop where
  | refl (suggestion : Suggestion) : Reordered suggestion suggestion
  | calls {calls calls' : List Text} (hperm : calls'.Perm calls) :
    Reordered (dangerousCalls calls') (dangerousCalls calls)

theorem forall₂_reordered_refl (suggestions : List Suggestion) :
    List.Forall₂ Reordered suggestions suggestions :=
  List.forall₂_same.2 fun suggestion _ => .refl suggestion

/-- Whether there is a suggestion on risky calls does not depend on their order. -/
theorem forall₂_reordered_ofSignals {s : Signals} {calls : List Text}
    (hperm : calls.Perm s.dangerousMatches) :
    List.Forall₂ Reordered (ofSignals { s with dangerousMatches := calls }) (ofSignals s) := by
  have hcalls : List.Forall₂ Reordered (if calls.isEmpty then [] else [dangerousCalls calls])
      (if s.dangerousMatches.isEmpty then [] else [dangerousCalls s.dangerousMatches]) := by
    generalize s.dangerousMatches = found at hperm
    by_cases hnone : found = []
    · rw [hnone] at hperm ⊢
      rw [hperm.eq_nil]
      exact .nil
    · have hsome : calls ≠ [] := fun h => hnone (h ▸ hperm).symm.eq_nil
      rw [if_neg (mt List.isEmpty_iff.1 hsome), if_neg (mt List.isEmpty_iff.1 hnone)]
      exact .cons (.calls hperm) .nil
  unfold ofSignals
  apply List.rel_append
  · exact List.rel_append (forall₂_reordered_refl _) hcalls
  · exact forall₂_reordered_refl _

end Suggestion

/-! ## Scores -/

namespace Score

/-- Of the score of lines without breaks, whatever the language is chosen by, nothing depends on their
order but the order of the risky calls. -/
theorem ofText_line_order (hint : LanguageHint) (fileName : Option Path)
    (hlines : ∀ line ∈ lines, ∀ c ∈ line, Text.isBreak c = false) (hperm : lines'.Perm lines) :
    let score := ofText (Text.ofLines lines) hint fileName
    let score' := ofText (Text.ofLines lines') hint fileName
    score'.language = score.language ∧ score'.breakdown = score.breakdown ∧
      score'.total = score.total ∧ score'.shitIndex = score.shitIndex ∧
      score'.signals.dangerousMatches.Perm score.signals.dangerousMatches ∧
      score'.signals =
        { score.signals with dangerousMatches := score'.signals.dangerousMatches } ∧
      List.Forall₂ Suggestion.Reordered score'.suggestions score.suggestions := by
  intro score score'
  have hsignals : score'.signals =
      { score.signals with dangerousMatches := score'.signals.dangerousMatches } :=
    Signals.ofText_ofLines_of_perm hlines hperm
  have hcalls : score'.signals.dangerousMatches.Perm score.signals.dangerousMatches :=
    Pattern.findAll_ofLines_perm hperm Signals.separate_dangerousCall Signals.isBreak_dangerousCall
  have hlanguage : score'.language = score.language :=
    LanguageHint.choose_congr (Language.ofContent_ofLines_of_perm hperm) hint fileName
  -- No sub-score looks at the risky calls themselves.
  have hbreakdown : score'.breakdown = score.breakdown := by
    show Breakdown.ofSignals score'.signals = Breakdown.ofSignals score.signals
    rw [hsignals]
    rfl
  have hsuggestions : List.Forall₂ Suggestion.Reordered score'.suggestions score.suggestions := by
    show List.Forall₂ _ (Suggestion.ofSignals score'.signals) (Suggestion.ofSignals score.signals)
    rw [hsignals]
    exact Suggestion.forall₂_reordered_ofSignals hcalls
  exact ⟨hlanguage, hbreakdown, congrArg Breakdown.total hbreakdown,
    congrArg (100 - Breakdown.total ·) hbreakdown, hcalls, hsignals, hsuggestions⟩

/-- Lines with keywords at their ends and at their starts, which would make others if they met. -/
def scatteredLines : List Text := ["md5(", "int", "", " main for ", "\tdef ", "eval(sha", "1)"]

theorem ofText_line_order_reversed :
    (∀ line ∈ scatteredLines, ∀ c ∈ line, Text.isBreak c = false) ∧
    scatteredLines.reverse.Perm scatteredLines ∧
    (ofText (Text.ofLines scatteredLines.reverse) .auto none).breakdown =
      (ofText (Text.ofLines scatteredLines) .auto none).breakdown ∧
    (ofText (Text.ofLines scatteredLines.reverse) .auto none).language = .python ∧
    (ofText (Text.ofLines scatteredLines.reverse) .auto none).signals.dangerousMatches =
      ["eval".toList, "md5".toList] ∧
    (ofText (Text.ofLines scatteredLines) .auto none).signals.dangerousMatches =
      ["md5".toList, "eval".toList] := by
  have hlines : ∀ line ∈ scatteredLines, ∀ c ∈ line, Text.isBreak c = false :=
    Text.isBreak_of_all (by decide +kernel)
  have hperm := List.reverse_perm scatteredLines
  obtain ⟨hlanguage, hbreakdown, -⟩ := ofText_line_order .auto none hlines hperm
  refine ⟨hlines, hperm, hbreakdown, hlanguage.trans ?_, ?_, ?_⟩ <;> decide +kernel

end Score

end SourceGrade
