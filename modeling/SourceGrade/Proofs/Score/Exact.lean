import Mathlib.Data.Rat.Floor
import SourceGrade.Proofs.Breakdown.Penalty
import SourceGrade.Proofs.Signals.Roundtrip
import SourceGrade.Score

/-!
# Scores without rounding

Readability and the suggestions on lines and comments are computed with doubles, and come out as if
all of it were computed with fractions.
-/

namespace SourceGrade

open Binary64

variable {s : Signals} {total : Nat}

/-! ## Triggers -/

namespace Suggestion

theorem linesTooLong_mem_ofSignals :
    linesTooLong ∈ ofSignals s ↔ longLineThreshold.lt s.averageLength = true := by
  simp [ofSignals]

theorem insufficientComments_mem_ofSignals : insufficientComments ∈ ofSignals s ↔
    (Binary64.ofNat s.commentLines).lt ((Binary64.ofNat s.lines).mul minCommentRatio) = true := by
  simp [ofSignals]

/-- A mean beyond a hundred is beyond it by the share of one line. -/
theorem linesTooLong_iff (havg : s.averageLength = Signals.meanLength total s.lines)
    (htotal : total ≤ 2 ^ 40) (hlines : s.lines ≤ 2 ^ 40) :
    linesTooLong ∈ ofSignals s ↔ 100 * max s.lines 1 < total := by
  have hmean := Signals.faithful_meanLength htotal hlines
  have hthreshold : Faithful (100 : Nat) longLineThreshold := faithful_ofNat (by decide)
  have hn : (0 : ℚ) < (max s.lines 1 : Nat) := by positivity
  rw [linesTooLong_mem_ofSignals, havg,
    lt_iff_size_lt hthreshold.isMagnitude hmean.isMagnitude,
    hthreshold.size_eq (representable_natCast (by decide))]
  constructor
  · intro hlt
    by_contra hle
    refine hlt.not_ge (hmean.size_le (representable_natCast (by decide)) ?_)
    rw [div_le_iff₀ hn]
    exact_mod_cast not_lt.1 hle
  · intro hlt
    have hshare : (1 : ℚ) / 2 ^ 40 ≤ 1 / (max s.lines 1 : Nat) := by
      refine one_div_le_one_div_of_le hn ?_
      exact_mod_cast (by omega : max s.lines 1 ≤ 2 ^ 40)
    have hbeyond : ((100 : Nat) : ℚ) + 1 / 2 ^ 40 ≤ (Signals.meanLength total s.lines).size := by
      refine hmean.le_size (representable_add (by decide) (by decide)) ?_
      rw [le_div_iff₀ hn]
      have hnext : ((100 * max s.lines 1 + 1 : Nat) : ℚ) ≤ total := by exact_mod_cast hlt
      rw [add_mul]
      have hpart : (1 : ℚ) / 2 ^ 40 * (max s.lines 1 : Nat) ≤ 1 := by
        rw [le_div_iff₀ hn] at hshare
        exact hshare
      push_cast at hnext hpart ⊢
      linarith
    exact (lt_add_of_pos_right _ (by positivity)).trans_le hbeyond

/-- Comments that are missing to a twentieth of the lines are missing by a twentieth at least. -/
theorem insufficientComments_iff (hlines : s.lines ≤ 2 ^ 40) (hcomments : s.commentLines ≤ 2 ^ 40) :
    insufficientComments ∈ ofSignals s ↔ 20 * s.commentLines < s.lines := by
  have hsize : 2 ^ 48 < hiddenBit := by decide
  have hcount : s.commentLines ≤ hiddenBit := by omega
  have hwanted : Faithful (s.lines / 20) ((Binary64.ofNat s.lines).mul minCommentRatio) :=
    faithful_mul_twentieth (by omega)
  rw [insufficientComments_mem_ofSignals,
    lt_iff_size_lt (faithful_ofNat hcount).isMagnitude hwanted.isMagnitude, size_ofNat hcount]
  constructor
  · intro hlt
    by_contra hle
    refine hlt.not_ge (hwanted.size_le (representable_natCast (by omega)) ?_)
    rw [div_le_iff₀ (by norm_num)]
    exact_mod_cast (by omega : s.lines ≤ s.commentLines * 20)
  · intro hlt
    have hbeyond : (s.commentLines : ℚ) + 1 / 2 ^ 5 ≤ ((ofNat s.lines).mul minCommentRatio).size := by
      refine hwanted.le_size (representable_add (by omega) (by decide)) ?_
      have hmissing : ((20 * s.commentLines + 1 : Nat) : ℚ) ≤ s.lines := by exact_mod_cast hlt
      push_cast at hmissing
      linarith
    exact (lt_add_of_pos_right _ (by positivity)).trans_le hbeyond

end Suggestion

/-! ## Scores -/

namespace Score

/-- For texts of no more than 2 ^ 40 bytes the doubles are as good as fractions. -/
theorem ofText_exact (text : Text) (hint : LanguageHint) (fileName : Option Path)
    (hsize : (Utf8.encode text).length ≤ Nat.pow 2 40) :
    let score := ofText text hint fileName
    let n : ℕ := text.lines.length
    let c : ℕ := text.lines.countP Signals.isComment
    let total : ℕ := (text.lines.map fun line => line.trimEnd.length).sum
    (score.breakdown.readability : ℤ) =
        max 0 (20 - ⌊(total : ℚ) / (5 * max n 1)⌋ - ⌊|10 * (c : ℚ) - n| / 20⌋) ∧
      (.linesTooLong ∈ score.suggestions ↔ 100 * max n 1 < total) ∧
      (.insufficientComments ∈ score.suggestions ↔ 20 * c < n) := by
  intro score n c total
  have hlength : text.length ≤ 2 ^ 40 := (Utf8.length_le_length_encode text).trans hsize
  have hn : n ≤ 2 ^ 40 := text.length_lines_le_length.trans hlength
  have hc : c ≤ 2 ^ 40 := List.countP_le_length.trans hn
  have htotal : total ≤ 2 ^ 40 := (Signals.totalLength_lines_le text).trans hlength
  have hlong : ⌊(total : ℚ) / (5 * max n 1)⌋ = (total / (5 * max n 1) : ℕ) := by
    have h := Rat.floor_natCast_div_natCast total (5 * max n 1)
    push_cast at h ⊢
    exact h
  have hgap : ⌊|10 * (c : ℚ) - n| / 20⌋ = ((10 * c - n : ℤ).natAbs / 20 : ℕ) := by
    have h := Rat.floor_natCast_div_natCast (10 * c - n : ℤ).natAbs 20
    rw [Nat.cast_natAbs] at h
    push_cast at h ⊢
    exact h
  rw [hlong, hgap]
  exact ⟨Breakdown.cast_readability rfl htotal hn hc, Suggestion.linesTooLong_iff rfl htotal hn,
    Suggestion.insufficientComments_iff hn hc⟩

/-- Twenty lines of five characters each, one of them a comment, are just as long as costs a point, and
have just as many comments as are wanted. -/
theorem ofText_exact_ties :
    let text : Text := "#bcde\n".toList ++ (List.replicate 19 "bcdef\n".toList).flatten
    let score := ofText text .auto none
    let n : ℕ := text.lines.length
    let c : ℕ := text.lines.countP Signals.isComment
    let total : ℕ := (text.lines.map fun line => line.trimEnd.length).sum
    (Utf8.encode text).length ≤ Nat.pow 2 40 ∧ total = 5 * n ∧ 20 * c = n ∧
      (score.breakdown.readability : ℤ) =
        max 0 (20 - ⌊(total : ℚ) / (5 * max n 1)⌋ - ⌊|10 * (c : ℚ) - n| / 20⌋) ∧
      (.linesTooLong ∈ score.suggestions ↔ 100 * max n 1 < total) ∧
      (.insufficientComments ∈ score.suggestions ↔ 20 * c < n) := by
  intro text score n c total
  have hsize : (Utf8.encode text).length ≤ Nat.pow 2 40 := by decide +kernel
  exact ⟨hsize, by decide +kernel, by decide +kernel, ofText_exact text .auto none hsize⟩

end Score

end SourceGrade
