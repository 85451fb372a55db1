import SourceGrade.Proofs.Breakdown.Monotone
import SourceGrade.Proofs.Signals.Occurrences
import SourceGrade.Proofs.Text.Embedding
import SourceGrade.Proofs.Text.Size

/-!
# Sub-scores of embedded texts

Text around a text can only lower its security and its performance, and only raise its robustness
and its testability.
-/

namespace SourceGrade.Breakdown

theorem dangerousCalls_le_of_isInfix {text whole : Text} (hpart : text <:+: whole) :
    (Signals.ofText text).dangerousCalls ≤ (Signals.ofText whole).dangerousCalls :=
  (Pattern.findAll_sublist Signals.separate_dangerousCall rfl hpart).length_le

/-- As long as the counts fit a signed word, each of these sub-scores moves one way when a text is
put into a longer one, wherever the longer one is cut. -/
theorem embedding_monotone (front text behind : Text)
    (hsize : (Utf8.encode (front ++ text ++ behind)).length ≤ Nat.pow 2 33) :
    let part := ofSignals (.ofText text)
    let whole := ofSignals (.ofText (front ++ text ++ behind))
    whole.security ≤ part.security ∧ whole.performance ≤ part.performance ∧
      part.robustness ≤ whole.robustness ∧ part.testability ≤ whole.testability ∧
      text.lines.length ≤ (front ++ text ++ behind).lines.length := by
  intro part whole
  have hpart : text <:+: front ++ text ++ behind := ⟨front, behind, rfl⟩
  have hlength : (front ++ text ++ behind).length * 2 < UInt64.size := by
    have hbytes := Utf8.length_le_length_encode (front ++ text ++ behind)
    have hpow : Nat.pow 2 33 * 2 < UInt64.size := by decide
    omega
  have hcalls : (Signals.ofText (front ++ text ++ behind)).dangerousCalls * 2 < UInt64.size :=
    Nat.lt_of_le_of_lt (Nat.mul_le_mul_right 2 (Pattern.length_findAll_le_length _ _)) hlength
  have hlines : (Signals.ofText (front ++ text ++ behind)).lines * 2 < UInt64.size :=
    Nat.lt_of_le_of_lt (Nat.mul_le_mul_right 2 (Text.length_lines_le_length _)) hlength
  exact ⟨security_antitone hcalls (dangerousCalls_le_of_isInfix hpart),
    performance_antitone hlines (Text.length_lines_le_of_isInfix hpart),
    robustness_mono (Text.any_contains_of_isInfix hpart),
    testability_mono (Text.any_contains_of_isInfix hpart), Text.length_lines_le_of_isInfix hpart⟩

/-- The first cut goes between a carriage return and its line feed, the second through a call. -/
theorem embedding_monotone_cuts :
    let front : Text := "try:\r".toList
    let text : Text := "\nx = md5(eval(y))\rsha".toList
    let behind : Text := "1(x)\n".toList
    let part := ofSignals (.ofText text)
    let whole := ofSignals (.ofText (front ++ text ++ behind))
    (Utf8.encode (front ++ text ++ behind)).length ≤ Nat.pow 2 33 ∧
      whole.security ≤ part.security ∧ whole.performance ≤ part.performance ∧
      part.robustness ≤ whole.robustness ∧ part.testability ≤ whole.testability ∧
      text.lines.length ≤ (front ++ text ++ behind).lines.length := by
  intro front text behind part whole
  have hsize : (Utf8.encode (front ++ text ++ behind)).length ≤ Nat.pow 2 33 := by decide +kernel
  exact ⟨hsize, embedding_monotone front text behind hsize⟩

end SourceGrade.Breakdown
