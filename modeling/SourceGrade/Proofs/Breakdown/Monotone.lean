import SourceGrade.Breakdown

/-!
# Directions of sub-scores

How the sub-scores move with the signals. A count that fits the positive half of the signed words is
read as it is; beyond that it wraps.
-/

namespace SourceGrade.Breakdown

theorem signedCount_of_lt {n : Nat} (hsmall : n * 2 < UInt64.size) : signedCount n = n := by
  apply Int.bmod_eq_of_le_mul_two <;> omega

theorem clamp_mono {i j : Int} (hle : i ≤ j) : clamp i ≤ clamp j := by
  unfold clamp
  omega

variable {s s' : Signals}

theorem security_antitone (hsmall : s'.dangerousCalls * 2 < UInt64.size)
    (hcalls : s.dangerousCalls ≤ s'.dangerousCalls) :
    (ofSignals s').security ≤ (ofSignals s).security := by
  apply clamp_mono
  rw [signedCount_of_lt hsmall, signedCount_of_lt (by omega)]
  omega

theorem performance_antitone (hsmall : s'.lines * 2 < UInt64.size) (hlines : s.lines ≤ s'.lines) :
    (ofSignals s').performance ≤ (ofSignals s).performance := by
  have hquotient : s.lines / 200 ≤ s'.lines / 200 := Nat.div_le_div_right hlines
  apply clamp_mono
  rw [signedCount_of_lt (by omega), signedCount_of_lt (by omega)]
  omega

theorem robustness_mono (hmarkers : s.hasErrorHandling = true → s'.hasErrorHandling = true) :
    (ofSignals s).robustness ≤ (ofSignals s').robustness := by
  cases h : s.hasErrorHandling <;> cases h' : s'.hasErrorHandling <;> simp_all [ofSignals]

theorem testability_mono (hmarkers : s.hasTests = true → s'.hasTests = true) :
    (ofSignals s).testability ≤ (ofSignals s').testability := by
  cases h : s.hasTests <;> cases h' : s'.hasTests <;> simp_all [ofSignals]

end SourceGrade.Breakdown
