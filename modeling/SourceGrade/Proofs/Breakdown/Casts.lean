import SourceGrade.Proofs.Binary64.Sign
import SourceGrade.Proofs.Breakdown.Monotone
import SourceGrade.Proofs.Json.Roundtrip
import SourceGrade.Proofs.Signals.Words

/-!
# Sub-scores of any counts

The sub-scores are computed with signed words, to which the counts of 64 bits are cast. A cast wraps, so
that a count in the upper half stands for a negative number. Wherever the arithmetic on the words does
not overflow, readability and performance keep their bounds; those of security and the directions of
security and maintainability hold within either half of the counts and are turned around from the lower
half to the upper one (`Breakdown.ofCasts_directions`).
-/

namespace SourceGrade.Breakdown

open Binary64 WordRange

variable {s s' : Signals} {b : Breakdown} {m n : Nat} {i : ℤ}

/-! ## Counts -/

theorem signedCount_of_le (hlow : 2 ^ 63 ≤ n) (hhigh : n < UInt64.size) :
    signedCount n = n - UInt64.size := by
  have hsize : UInt64.size = 2 ^ 64 := rfl
  have hword : Int.bmod (n - UInt64.size) UInt64.size = n - UInt64.size := by
    apply Int.bmod_eq_of_le_mul_two <;> omega
  exact (Int.sub_bmod_right n UInt64.size).symm.trans hword

theorem signedCount_nonneg_iff (hn : n < UInt64.size) : 0 ≤ signedCount n ↔ n < 2 ^ 63 := by
  have hsize : UInt64.size = 2 ^ 64 := rfl
  rcases Nat.lt_or_ge n (2 ^ 63) with hlow | hhigh
  · rw [signedCount_of_lt (by omega)]
    omega
  · rw [signedCount_of_le hhigh hn]
    omega

/-- Casts keep the order within either half. -/
theorem signedCount_le_iff (hle : m ≤ n) (hn : n < UInt64.size) :
    signedCount m ≤ signedCount n ↔ n < 2 ^ 63 ∨ 2 ^ 63 ≤ m := by
  have hsize : UInt64.size = 2 ^ 64 := rfl
  rcases Nat.lt_or_ge n (2 ^ 63) with hlow | hhigh
  · rw [signedCount_of_lt (by omega), signedCount_of_lt (by omega)]
    omega
  · rw [signedCount_of_le hhigh hn]
    rcases Nat.lt_or_ge m (2 ^ 63) with hlow | hhigh'
    · rw [signedCount_of_lt (by omega)]
      omega
    · rw [signedCount_of_le hhigh' (by omega)]
      omega

/-! ## Words -/

def castReadability? (s : Signals) : Option ℤ := do
  let rest ← signed64.hold? (20 - longLinePenalty s)
  signed64.hold? (rest - commentGapPenalty s)

def castMaintainability? (s : Signals) : Option ℤ := do
  let cost ← signed64.hold? (2 * signedCount s.loops)
  let rest ← signed64.hold? (20 - cost)
  signed64.hold? (rest + signedCount s.functions)

def castPerformance? (s : Signals) : Option ℤ := signed64.hold? (15 - signedCount (s.lines / 200))

def castSecurity? (s : Signals) : Option ℤ := do
  let cost ← signed64.hold? (2 * signedCount s.dangerousCalls)
  signed64.hold? (10 - cost)

/-- The sub-scores by arithmetic on signed words. There are none where a step overflows. -/
def ofCasts? (s : Signals) : Option Breakdown := do
  let readability ← castReadability? s
  let maintainability ← castMaintainability? s
  let performance ← castPerformance? s
  let security ← castSecurity? s
  return {
    readability := clamp readability
    maintainability := clamp maintainability
    robustness := if s.hasErrorHandling then 15 else 8
    performance := clamp performance
    security := clamp security
    testability := if s.hasTests then 10 else 4
    consistency := if s.trailingNewline then 10 else 7 }

theorem eq_of_castReadability? (h : castReadability? s = some i) :
    i = 20 - longLinePenalty s - commentGapPenalty s := by
  simp only [castReadability?, Option.bind_eq_bind, Option.bind_eq_some_iff] at h
  obtain ⟨rest, hrest, hi⟩ := h
  rw [eq_of_hold? hi, eq_of_hold? hrest]

theorem eq_of_castMaintainability? (h : castMaintainability? s = some i) :
    i = 20 - 2 * signedCount s.loops + signedCount s.functions := by
  simp only [castMaintainability?, Option.bind_eq_bind, Option.bind_eq_some_iff] at h
  obtain ⟨cost, hcost, rest, hrest, hi⟩ := h
  rw [eq_of_hold? hi, eq_of_hold? hrest, eq_of_hold? hcost]

theorem eq_of_castSecurity? (h : castSecurity? s = some i) :
    i = 10 - 2 * signedCount s.dangerousCalls := by
  simp only [castSecurity?, Option.bind_eq_bind, Option.bind_eq_some_iff] at h
  obtain ⟨cost, hcost, hi⟩ := h
  rw [eq_of_hold? hi, eq_of_hold? hcost]

/-- Without an overflow the words are the integers. -/
theorem ofSignals_of_ofCasts? (h : ofCasts? s = some b) : ofSignals s = b := by
  simp only [ofCasts?, Option.bind_eq_bind, Option.bind_eq_some_iff] at h
  obtain ⟨readability, hreadability, maintainability, hmaintainability, performance, hperformance,
    security, hsecurity, h⟩ := h
  obtain rfl := Option.some.inj h
  rw [eq_of_castReadability? hreadability, eq_of_castMaintainability? hmaintainability,
    eq_of_hold? hperformance, eq_of_castSecurity? hsecurity]
  rfl

/-! ## Bounds -/

theorem clamp_le {bound : Nat} (hi : i ≤ bound) : clamp i ≤ bound := by
  unfold clamp
  omega

theorem longLinePenalty_nonneg (hlength : s.averageLength.IsNonneg) : 0 ≤ longLinePenalty s :=
  truncate_div_nonneg hlength (unsigned_ofRatio 5 1)

theorem commentGapPenalty_nonneg (s : Signals) : 0 ≤ commentGapPenalty s :=
  ((unsigned_abs _).div (unsigned_ofRatio 2 1)).truncate_nonneg

theorem readability_le_of_isNonneg (hlength : s.averageLength.IsNonneg) :
    (ofSignals s).readability ≤ 20 := by
  have hlong := longLinePenalty_nonneg hlength
  have hgap := commentGapPenalty_nonneg s
  refine clamp_le ?_
  omega

/-- The cast comes after the division, which leaves no count of the upper half. -/
theorem performance_le (hlines : s.lines < UInt64.size) : (ofSignals s).performance ≤ 15 := by
  have hsize : UInt64.size = 2 ^ 64 := rfl
  refine clamp_le ?_
  rw [signedCount_of_lt (by omega)]
  omega

theorem security_le_iff (hcalls : s.dangerousCalls < UInt64.size) :
    (ofSignals s).security ≤ 10 ↔ s.dangerousCalls < 2 ^ 63 := by
  have hmost : UInt32.size = 2 ^ 32 := rfl
  rw [← signedCount_nonneg_iff hcalls]
  show clamp (10 - 2 * signedCount s.dangerousCalls) ≤ 10 ↔ _
  unfold clamp
  omega

/-! ## Directions -/

theorem security_le_of_signedCount_le
    (hle : signedCount s.dangerousCalls ≤ signedCount s'.dangerousCalls) :
    (ofSignals s').security ≤ (ofSignals s).security := by
  refine clamp_mono ?_
  omega

theorem maintainability_le_of_signedCount_le (hfunctions : s'.functions = s.functions)
    (hle : signedCount s.loops ≤ signedCount s'.loops) :
    (ofSignals s').maintainability ≤ (ofSignals s).maintainability := by
  refine clamp_mono ?_
  rw [hfunctions]
  omega

/-- A count of the lower half costs security and one of the upper half adds to it. -/
theorem security_le_security_iff (hle : s.dangerousCalls ≤ s'.dangerousCalls)
    (hcalls : s'.dangerousCalls < UInt64.size) :
    (ofSignals s').security ≤ (ofSignals s).security ↔
      s'.dangerousCalls < 2 ^ 63 ∨ 2 ^ 63 ≤ s.dangerousCalls := by
  constructor
  · intro hsecurity
    by_contra hcross
    obtain ⟨hhigh, hlow⟩ := not_or.1 hcross
    have hbound := (security_le_iff (hle.trans_lt hcalls)).2 (Nat.not_le.1 hlow)
    exact hhigh ((security_le_iff hcalls).1 (hsecurity.trans hbound))
  · intro hhalf
    exact security_le_of_signedCount_le ((signedCount_le_iff hle hcalls).2 hhalf)

/-- Signals with counts of 64 bits and a mean length of at least zero, whose sub-scores are computed
without an overflow: more risky calls or loops lower the sub-score unless they take the count from the
lower half to the upper one. -/
theorem ofCasts_directions (s : Signals) (b : Breakdown)
    (hcounts : ∀ n ∈ s.counts, n < UInt64.size) (hlength : s.averageLength.IsNonneg)
    (hrun : ofCasts? s = some b) :
    ofSignals s = b ∧ b.readability ≤ 20 ∧ b.performance ≤ 15 ∧
      (b.security ≤ 10 ↔ s.dangerousCalls < 2 ^ 63) ∧
      (∀ calls b', s.dangerousCalls ≤ calls → calls < UInt64.size →
        ofCasts? { s with dangerousCalls := calls } = some b' →
        (b'.security ≤ b.security ↔ calls < 2 ^ 63 ∨ 2 ^ 63 ≤ s.dangerousCalls)) ∧
      (∀ loops b', s.loops ≤ loops → loops < UInt64.size →
        ofCasts? { s with loops } = some b' →
        (loops < 2 ^ 63 ∨ 2 ^ 63 ≤ s.loops → b'.maintainability ≤ b.maintainability) ∧
        (s.loops < 2 ^ 63 ∧ 2 ^ 63 ≤ loops → b.maintainability ≤ b'.maintainability)) := by
  obtain rfl := ofSignals_of_ofCasts? hrun
  simp only [Signals.counts, List.forall_mem_cons] at hcounts
  obtain ⟨hlines, -, -, -, hcalls, -⟩ := hcounts
  refine ⟨rfl, readability_le_of_isNonneg hlength, performance_le hlines, security_le_iff hcalls,
    ?_, ?_⟩
  · intro calls b' hle hcalls' hrun'
    obtain rfl := ofSignals_of_ofCasts? hrun'
    exact security_le_security_iff hle hcalls'
  · intro loops b' hle hloops hrun'
    obtain rfl := ofSignals_of_ofCasts? hrun'
    refine ⟨fun hhalf => ?_, fun hcross => ?_⟩
    · exact maintainability_le_of_signedCount_le rfl ((signedCount_le_iff hle hloops).2 hhalf)
    · refine maintainability_le_of_signedCount_le rfl (Int.not_le.1 fun hsigned => ?_).le
      have hhalf := (signedCount_le_iff hle hloops).1 hsigned
      omega

/-- From no risky calls to the largest number of them, and from no loops. -/
theorem ofCasts_directions_most :
    let s : Signals := {
      lines := 10
      averageLength := .ofNat 20
      commentLines := 1
      functions := 0
      loops := 0
      dangerousCalls := 0
      dangerousMatches := []
      hasTests := true
      hasErrorHandling := false
      trailingNewline := true }
    let b : Breakdown := {
      readability := 16
      maintainability := 20
      robustness := 8
      performance := 15
      security := 10
      testability := 10
      consistency := 10 }
    let most := 2 ^ 64 - 1
    (∀ n ∈ s.counts, n < UInt64.size) ∧ s.averageLength.IsNonneg ∧
      ofCasts? s = some b ∧ ofSignals s = b ∧
      ofCasts? { s with dangerousCalls := most } = some { b with security := 12 } ∧
      ofCasts? { s with loops := most } = some { b with maintainability := 22 } ∧
      ¬ { b with security := 12 }.security ≤ b.security ∧
      b.maintainability ≤ { b with maintainability := 22 }.maintainability := by
  intro s b most
  have hcounts : ∀ n ∈ s.counts, n < UInt64.size := by decide
  have hlength : s.averageLength.IsNonneg := .inl (by decide +kernel)
  have hrun : ofCasts? s = some b := by decide +kernel
  have hcalls : ofCasts? { s with dangerousCalls := most } = some { b with security := 12 } := by
    decide +kernel
  have hloops : ofCasts? { s with loops := most } = some { b with maintainability := 22 } := by
    decide +kernel
  obtain ⟨heq, -, -, -, hsecurity, hmaintainability⟩ := ofCasts_directions s b hcounts hlength hrun
  refine ⟨hcounts, hlength, hrun, heq, hcalls, hloops, fun hle => ?_, ?_⟩
  · rcases (hsecurity most _ (by decide) (by decide) hcalls).1 hle with h | h
    · exact absurd h (by decide)
    · exact absurd h (by decide)
  · exact (hmaintainability most _ (by decide) (by decide) hloops).2 ⟨by decide, by decide⟩

end SourceGrade.Breakdown
