import SourceGrade.Breakdown
import SourceGrade.Proofs.Binary64.Representable

/-!
# Penalties in whole numbers

The penalties on readability are computed with doubles. Up to sizes far beyond those of texts they are
the whole quotients of the counts themselves, also where a quotient is just reached or just missed.
-/

namespace SourceGrade

open Binary64

variable {s : Signals} {total n k : Nat} {mean : Binary64}

theorem Signals.faithful_meanLength (htotal : total ≤ 2 ^ 40) (hn : n ≤ 2 ^ 40) :
    Faithful (total / (max n 1 : Nat)) (meanLength total n) := by
  have hroom : 2 ^ 40 ≤ hiddenBit := by decide
  have hlines : max n 1 ≤ hiddenBit := by omega
  have hone : (1 : ℚ) ≤ (max n 1 : Nat) := by exact_mod_cast le_max_right n 1
  have hdiv := roundsTo_div (faithful_ofNat (htotal.trans hroom)).isMagnitude
    (faithful_ofNat hlines).isMagnitude (by rw [size_ofNat hlines]; positivity)
  rw [size_ofNat (htotal.trans hroom), size_ofNat hlines] at hdiv
  refine hdiv.faithful ((div_le_self (Nat.cast_nonneg total) hone).trans ?_)
  exact_mod_cast htotal.trans hroom

namespace Breakdown

/-! ## Long lines -/

/-- A power of two for the share of one line, with room in front of it for a count in five
characters a line. -/
theorem exists_share (hn : 0 < n) (hle : n ≤ 2 ^ 40) (hcount : 5 * k * n ≤ 2 ^ 40) :
    ∃ i ≤ 41, n ≤ 2 ^ i ∧ 5 * (k + 1) * 2 ^ (i + 3) < hiddenBit := by
  have habove : 2 ^ (n.log2 + 1) ≤ 2 * n := by
    rw [Nat.pow_succ, Nat.mul_comm]
    exact Nat.mul_le_mul_left 2 (Nat.log2_self_le hn.ne')
  have hexponent : n.log2 + 1 ≤ 41 := by
    rw [← Nat.pow_le_pow_iff_right (by decide : 1 < 2)]
    omega
  refine ⟨n.log2 + 1, hexponent, Nat.lt_log2_self.le, ?_⟩
  calc 5 * (k + 1) * 2 ^ (n.log2 + 1 + 3)
    _ = 5 * (k + 1) * (8 * 2 ^ (n.log2 + 1)) := by ring
    _ ≤ 5 * (k + 1) * (8 * (2 * n)) := by gcongr
    _ = 16 * (5 * k * n) + 80 * n := by ring
    _ < hiddenBit := by
      have hsize : 2 ^ 48 < hiddenBit := by decide
      omega

/-- A mean that misses a multiple of five misses it by a share of one line at least, which is more
than the two roundings make up for. -/
theorem truncate_div_five (hmean : Faithful (total / n) mean) (hn : 0 < n) (hle : n ≤ 2 ^ 40)
    (hlow : 5 * k * n ≤ total) (hhigh : total + 1 ≤ 5 * (k + 1) * n) (htotal : total ≤ 2 ^ 40) :
    (mean.div (ofNat 5)).truncate = k := by
  obtain ⟨i, hi, hshare, hroom⟩ := exists_share hn hle (hlow.trans htotal)
  have hnq : (0 : ℚ) < n := by exact_mod_cast hn
  refine Faithful.truncate_div (by decide) (by decide) hmean hroom (by omega) ?_ ?_
  · rw [le_div_iff₀ hnq]
    exact_mod_cast hlow
  · have hpart : (1 : ℚ) / 2 ^ i ≤ 1 / n := one_div_le_one_div_of_le hnq (by exact_mod_cast hshare)
    calc (total : ℚ) / n
      _ ≤ ((5 * (k + 1) : Nat) * n - 1) / n := by
        gcongr
        rw [le_sub_iff_add_le]
        exact_mod_cast hhigh
      _ = (5 * (k + 1) : Nat) - 1 / n := by rw [sub_div, mul_div_cancel_right₀ _ hnq.ne']
      _ ≤ (5 * (k + 1) : Nat) - 1 / 2 ^ i := by linarith

theorem longLinePenalty_eq (havg : s.averageLength = Signals.meanLength total s.lines)
    (htotal : total ≤ 2 ^ 40) (hlines : s.lines ≤ 2 ^ 40) :
    longLinePenalty s = (total / (5 * max s.lines 1) : Nat) := by
  have hn : 0 < max s.lines 1 := by omega
  have hlow := Nat.div_mul_le_self total (5 * max s.lines 1)
  have hhigh := Nat.lt_mul_of_div_lt (Nat.lt_succ_self (total / (5 * max s.lines 1)))
    (by omega : 0 < 5 * max s.lines 1)
  rw [longLinePenalty, havg]
  refine truncate_div_five (Signals.faithful_meanLength htotal hlines) hn (by omega) ?_ ?_ htotal
  · linarith
  · linarith

/-! ## Missing comments -/

section

variable {comments : Nat} {wanted : Binary64} (hwanted : Faithful (n / 10) wanted)

include hwanted

/-- Fewer comments than a tenth of the lines. -/
theorem gap_of_le (hle : 10 * comments ≤ n) (hn : n ≤ 2 ^ 40) (hlow : 20 * k ≤ n - 10 * comments)
    (hhigh : n - 10 * comments < 20 * (k + 1)) :
    (2 * k : Nat) ≤ wanted.size - comments ∧
      wanted.size - comments ≤ (2 * (k + 1) : Nat) - 1 / 2 ^ 4 := by
  have hsize : 2 ^ 48 < hiddenBit := by decide
  constructor
  · have h : ((comments + 2 * k : Nat) : ℚ) ≤ wanted.size := by
      refine hwanted.le_size (representable_natCast (by omega)) ?_
      rw [le_div_iff₀ (by norm_num)]
      exact_mod_cast (by omega : (comments + 2 * k) * 10 ≤ n)
    push_cast at h ⊢
    linarith
  · have h : wanted.size ≤ (comments + 2 * (k + 1) : Nat) - 1 / 2 ^ 4 := by
      refine hwanted.size_le (representable_sub (by omega) (by omega) (by omega)) ?_
      have hcount : (n : ℚ) + 1 ≤ (10 * comments + 20 * (k + 1) : Nat) := by
        exact_mod_cast (by omega : n + 1 ≤ 10 * comments + 20 * (k + 1))
      push_cast at hcount ⊢
      linarith
    push_cast at h ⊢
    linarith

/-- More comments than a tenth of the lines. -/
theorem gap_of_ge (hle : n ≤ 10 * comments) (hcomments : comments ≤ 2 ^ 40)
    (hlow : 20 * k ≤ 10 * comments - n) (hhigh : 10 * comments - n < 20 * (k + 1)) :
    (2 * k : Nat) ≤ comments - wanted.size ∧
      comments - wanted.size ≤ (2 * (k + 1) : Nat) - 1 / 2 ^ 4 := by
  have hsize : 2 ^ 48 < hiddenBit := by decide
  constructor
  · obtain ⟨rest, rfl⟩ : ∃ rest, comments = rest + 2 * k := ⟨comments - 2 * k, by omega⟩
    have h : wanted.size ≤ rest := by
      refine hwanted.size_le (representable_natCast (by omega)) ?_
      rw [div_le_iff₀ (by norm_num)]
      exact_mod_cast (by omega : n ≤ rest * 10)
    push_cast
    linarith
  · rcases Nat.lt_or_ge comments (2 * (k + 1)) with hfew | hmany
    · -- Even without any line the comments would be too few.
      have hfew : (comments : ℚ) + 1 ≤ (2 * (k + 1) : Nat) := by exact_mod_cast hfew
      have hnonneg := wanted.size_nonneg
      linarith
    · obtain ⟨rest, rfl⟩ : ∃ rest, comments = rest + 2 * (k + 1) :=
        ⟨comments - 2 * (k + 1), by omega⟩
      have h : (rest : ℚ) + 1 / 2 ^ 4 ≤ wanted.size := by
        refine hwanted.le_size (representable_add (by omega) (by omega)) ?_
        have hcount : (10 * rest : Nat) + 1 ≤ (n : ℚ) := by
          exact_mod_cast (by omega : 10 * rest + 1 ≤ n)
        push_cast at hcount
        linarith
      push_cast at h ⊢
      linarith

/-- The gap is taken on either side. -/
theorem truncate_gap (hn : n ≤ 2 ^ 40) (hcomments : comments ≤ 2 ^ 40)
    (hlow : 20 * k ≤ (10 * comments - n : ℤ).natAbs)
    (hhigh : (10 * comments - n : ℤ).natAbs < 20 * (k + 1)) :
    (div ((ofNat comments).sub wanted).abs (ofNat 2)).truncate = k := by
  have hsize : 2 ^ 48 < hiddenBit := by decide
  have hgap : (2 * k : Nat) ≤ |(comments : ℚ) - wanted.size| ∧
      |(comments : ℚ) - wanted.size| ≤ (2 * (k + 1) : Nat) - 1 / 2 ^ 4 := by
    rcases Nat.le_total (10 * comments) n with hle | hle
    · obtain ⟨hlow, hhigh⟩ := gap_of_le (k := k) hwanted hle hn (by omega) (by omega)
      have hsign : (comments : ℚ) - wanted.size ≤ 0 := by
        have hnonneg : (0 : ℚ) ≤ (2 * k : Nat) := Nat.cast_nonneg _
        linarith
      rw [abs_of_nonpos hsign, neg_sub]
      exact ⟨hlow, hhigh⟩
    · obtain ⟨hlow, hhigh⟩ := gap_of_ge (k := k) hwanted hle hcomments (by omega) (by omega)
      rw [abs_of_nonneg ((Nat.cast_nonneg _).trans hlow)]
      exact ⟨hlow, hhigh⟩
  obtain ⟨hgapLow, hgapHigh⟩ := hgap
  have hcount := faithful_ofNat (by omega : comments ≤ hiddenBit)
  have hsub := roundsTo_abs_sub hcount.isMagnitude hwanted.isMagnitude
  rw [size_ofNat (by omega)] at hsub
  have hfits : ((2 * (k + 1) : Nat) : ℚ) ≤ hiddenBit := by
    exact_mod_cast (by omega : 2 * (k + 1) ≤ hiddenBit)
  exact Faithful.truncate_div (by decide) (by decide) (hsub.faithful (by linarith)) (by omega)
    (by decide) hgapLow hgapHigh

end

theorem commentGapPenalty_eq (hlines : s.lines ≤ 2 ^ 40) (hcomments : s.commentLines ≤ 2 ^ 40) :
    commentGapPenalty s = ((10 * s.commentLines - s.lines : ℤ).natAbs / 20 : Nat) := by
  have hroom : 2 ^ 40 ≤ hiddenBit := by decide
  have hlow := Nat.div_mul_le_self (10 * s.commentLines - s.lines : ℤ).natAbs 20
  have hhigh := Nat.lt_mul_of_div_lt
    (Nat.lt_succ_self ((10 * s.commentLines - s.lines : ℤ).natAbs / 20)) (by omega : 0 < 20)
  exact truncate_gap (faithful_mul_tenth (hlines.trans hroom)) hlines hcomments (by omega)
    (by omega)

/-! ## Readability -/

/-- A sub-score below the end of the range is cut off at zero alone. -/
theorem cast_clamp {i : ℤ} (hi : i < UInt32.size) : (clamp i : ℤ) = max 0 i := by
  have hsize : UInt32.size = 4294967296 := rfl
  unfold clamp
  omega

theorem cast_readability (havg : s.averageLength = Signals.meanLength total s.lines)
    (htotal : total ≤ 2 ^ 40) (hlines : s.lines ≤ 2 ^ 40) (hcomments : s.commentLines ≤ 2 ^ 40) :
    ((ofSignals s).readability : ℤ) =
      max 0 (20 - (total / (5 * max s.lines 1) : Nat) -
        ((10 * s.commentLines - s.lines : ℤ).natAbs / 20 : Nat) : ℤ) := by
  have hsize : UInt32.size = 4294967296 := rfl
  have hreadability :
      (ofSignals s).readability = clamp (20 - longLinePenalty s - commentGapPenalty s) := rfl
  rw [hreadability, longLinePenalty_eq havg htotal hlines, commentGapPenalty_eq hlines hcomments]
  refine cast_clamp ?_
  have hlong := Int.natCast_nonneg (total / (5 * max s.lines 1))
  omega

end Breakdown

end SourceGrade
