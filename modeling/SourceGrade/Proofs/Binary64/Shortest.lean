import SourceGrade.Binary64.Shortest
import SourceGrade.Proofs.Binary64.Rounding

/-!
# The search for shortest decimals

The search for the shortest decimal of a double always ends with a decimal. Its digits are not zero, and
it is one of the reals that round to the double.
-/

namespace SourceGrade.Binary64

/-! ## Powers of ten and of two -/

theorem ten_zpow_lt_of_nonneg {p x : ℤ} (hp : 0 ≤ p) (h : 10 * p < 3 * x) :
    (10 : ℚ) ^ p < 2 ^ x := by
  refine lt_of_pow_lt_pow_left₀ 3 (by positivity) ?_
  calc ((10 : ℚ) ^ p) ^ 3
    _ = 1000 ^ p := by
      rw [← zpow_natCast, ← zpow_mul, mul_comm, zpow_mul]
      norm_num
    _ ≤ 1024 ^ p := zpow_le_zpow_left₀ hp (by norm_num) (by norm_num)
    _ = 2 ^ (10 * p) := by
      rw [zpow_mul]
      norm_num
    _ < 2 ^ (x * 3) := zpow_lt_zpow_right₀ one_lt_two (by omega)
    _ = (2 ^ x) ^ 3 := by rw [zpow_mul, zpow_ofNat]

theorem ten_zpow_lt_of_nonpos {p x : ℤ} (hp : p ≤ 0) (h : 33 * p < 10 * x) :
    (10 : ℚ) ^ p < 2 ^ x := by
  refine lt_of_pow_lt_pow_left₀ 10 (by positivity) ?_
  obtain ⟨n, rfl⟩ : ∃ n : ℕ, p = -n := ⟨p.natAbs, by omega⟩
  calc ((10 : ℚ) ^ (-(n : ℤ))) ^ 10
    _ = ((10 ^ 10) ^ n)⁻¹ := by
      rw [zpow_neg, inv_pow, zpow_natCast, ← pow_mul, ← pow_mul, Nat.mul_comm]
    _ ≤ ((2 ^ 33) ^ n)⁻¹ := by
      refine inv_anti₀ (by positivity) ?_
      gcongr
      norm_num
    _ = 2 ^ (33 * -(n : ℤ)) := by
      rw [← pow_mul, ← zpow_natCast, ← zpow_neg]
      congr 1
      push_cast
      ring
    _ < 2 ^ (x * 10) := zpow_lt_zpow_right₀ one_lt_two (by omega)
    _ = (2 ^ x) ^ 10 := by rw [zpow_mul, zpow_ofNat]

/-! ## Multiples in a neighbourhood -/

variable {v : Neighbourhood} {power : Int} {n : Nat}

/-- Multiples of a power of ten and of a power of two are compared over a common factor. -/
theorem exists_common (power exponent : Int) : ∃ c : ℚ, 0 < c ∧
    ((powerOf 10 power * powerOf 2 (-exponent) : Nat) : ℚ) = 10 ^ power * c ∧
    ((powerOf 2 exponent * powerOf 10 (-power) : Nat) : ℚ) = 2 ^ exponent * c := by
  have htwo : (0 : ℚ) < powerOf 2 (-exponent) := by exact_mod_cast powerOf_pos two_pos _
  have hten : (0 : ℚ) < powerOf 10 (-power) := by exact_mod_cast powerOf_pos (by decide) _
  refine ⟨powerOf 10 (-power) * powerOf 2 (-exponent), mul_pos hten htwo, ?_, ?_⟩
  · rw [Nat.cast_mul, cast_powerOf (by decide : 0 < 10) power, mul_assoc]
    rfl
  · rw [Nat.cast_mul, cast_powerOf two_pos exponent, mul_assoc,
      mul_comm (powerOf 2 (-exponent) : ℚ)]
    rfl

/-- The reals that round to the double; the ends of the interval are among them if it is closed. -/
structure Neighbourhood.Contains (v : Neighbourhood) (q : ℚ) : Prop where
  low : v.low * 2 ^ v.exponent < q ∨ (v.low * 2 ^ v.exponent = q ∧ v.closed = true)
  high : q < v.high * 2 ^ v.exponent ∨ (q = v.high * 2 ^ v.exponent ∧ v.closed = true)

theorem Neighbourhood.Contains.le_high {q : ℚ} (h : v.Contains q) : q ≤ v.high * 2 ^ v.exponent := by
  rcases h.high with hlt | ⟨heq, -⟩
  · exact hlt.le
  · exact heq.le

/-- A multiple that is inside in whole units, of which there are `c` in one, is inside. -/
theorem contains_of_inside {unit scale : Nat} {c : ℚ} (hc : 0 < c)
    (hunit : (unit : ℚ) = 10 ^ power * c) (hscale : (scale : ℚ) = 2 ^ v.exponent * c)
    (h : (if v.closed = true then
      decide (v.low * scale ≤ n * unit) && decide (n * unit ≤ v.high * scale)
      else decide (v.low * scale < n * unit) && decide (n * unit < v.high * scale)) = true) :
    v.Contains (n * 10 ^ power) := by
  have hlow (a : Nat) : a * scale ≤ n * unit ↔ (a : ℚ) * 2 ^ v.exponent ≤ n * 10 ^ power := by
    rw [← Nat.cast_le (α := ℚ), Nat.cast_mul, Nat.cast_mul, hunit, hscale, ← mul_assoc, ← mul_assoc,
      mul_le_mul_iff_left₀ hc]
  have hhigh (a : Nat) : n * unit ≤ a * scale ↔ (n : ℚ) * 10 ^ power ≤ a * 2 ^ v.exponent := by
    rw [← Nat.cast_le (α := ℚ), Nat.cast_mul, Nat.cast_mul, hunit, hscale, ← mul_assoc, ← mul_assoc,
      mul_le_mul_iff_left₀ hc]
  split at h
  next hclosed =>
    rw [Bool.and_eq_true, decide_eq_true_eq, decide_eq_true_eq, hlow, hhigh] at h
    exact ⟨h.1.lt_or_eq.imp_right (⟨·, hclosed⟩), h.2.lt_or_eq.imp_right (⟨·, hclosed⟩)⟩
  next =>
    rw [Bool.and_eq_true, decide_eq_true_eq, decide_eq_true_eq, ← Nat.not_le, ← Nat.not_le, hlow,
      hhigh, not_le, not_le] at h
    exact ⟨Or.inl h.1, Or.inl h.2⟩

/-- A multiple that stands for the double rounds to it. -/
theorem multiple?_spec (h : v.multiple? power = some n) : 0 < n ∧ v.Contains (n * 10 ^ power) := by
  obtain ⟨c, hc, hunit, hscale⟩ := exists_common power v.exponent
  unfold Neighbourhood.multiple? at h
  dsimp only at h
  generalize powerOf 10 power * powerOf 2 (-v.exponent) = unit at *
  generalize powerOf 2 v.exponent * powerOf 10 (-power) = scale at *
  split at h
  next => cases h
  next hbelow habove =>
    cases h
    rw [Bool.and_eq_true, decide_eq_true_eq] at hbelow
    exact ⟨hbelow.1, contains_of_inside hc hunit hscale hbelow.2⟩
  next hbelow habove =>
    cases h
    exact ⟨Nat.succ_pos _, contains_of_inside hc hunit hscale habove⟩
  next hbelow habove =>
    rw [Bool.and_eq_true, decide_eq_true_eq] at hbelow
    split at h
    next =>
      cases h
      exact ⟨hbelow.1, contains_of_inside hc hunit hscale hbelow.2⟩
    next =>
      cases h
      exact ⟨Nat.succ_pos _, contains_of_inside hc hunit hscale habove⟩

/-- Powers of ten that are smaller than half of the interval have a multiple in its upper half. -/
theorem isSome_multiple? (hhigh : v.high = v.middle + 2) (hlow : v.low ≤ v.middle)
    (hpower : (10 : ℚ) ^ power < 2 * 2 ^ v.exponent) : (v.multiple? power).isSome = true := by
  obtain ⟨c, hc, hunit, hscale⟩ := exists_common power v.exponent
  unfold Neighbourhood.multiple?
  dsimp only
  generalize powerOf 10 power * powerOf 2 (-v.exponent) = unit at *
  generalize powerOf 2 v.exponent * powerOf 10 (-power) = scale at *
  have hsmall : unit < 2 * scale := by
    have hq : (unit : ℚ) < 2 * scale := by
      rw [hunit, hscale, ← mul_assoc]
      exact mul_lt_mul_of_pos_right hpower hc
    exact_mod_cast hq
  have hpos : 0 < unit := by
    have hq : (0 : ℚ) < unit := by
      rw [hunit]
      positivity
    exact_mod_cast hq
  -- The first multiple above the middle is still inside, and then the search takes some multiple.
  have hsplit := Nat.div_add_mod (v.middle * scale) unit
  have hmod := Nat.mod_lt (v.middle * scale) hpos
  have habove : v.middle * scale < (v.middle * scale / unit + 1) * unit ∧
      (v.middle * scale / unit + 1) * unit < v.high * scale := by
    rw [hhigh, Nat.add_mul, Nat.add_mul, Nat.mul_comm _ unit]
    omega
  have hbelow : v.low * scale ≤ v.middle * scale := Nat.mul_le_mul_right scale hlow
  generalize (v.middle * scale / unit + 1) * unit = above at *
  have hinside : (if v.closed = true then
      decide (v.low * scale ≤ above) && decide (above ≤ v.high * scale)
      else decide (v.low * scale < above) && decide (above < v.high * scale)) = true := by
    split <;> simp only [Bool.and_eq_true, decide_eq_true_eq] <;> omega
  rw [hinside]
  split
  next hnone => cases hnone
  next => rfl
  next => rfl
  next => split <;> rfl

/-! ## The search -/

/-- The search ends with the first power that has a multiple, at the last one if that has one. -/
theorem coarsest_spec {finer : Nat} (h : (v.multiple? (power - finer)).isSome = true) :
    ∃ n p, v.coarsest power finer = ⟨n, p⟩ ∧ v.multiple? p = some n ∧ power - finer ≤ p ∧
      p ≤ power ∧ (p < power → v.multiple? (p + 1) = none) := by
  induction finer generalizing power with
  | zero =>
    rw [Nat.cast_zero, sub_zero] at h
    obtain ⟨n, hn⟩ := Option.isSome_iff_exists.1 h
    refine ⟨n, power, ?_, hn, by omega, le_rfl, fun hlt => absurd hlt (lt_irrefl _)⟩
    rw [Neighbourhood.coarsest, hn]
    rfl
  | succ finer ih =>
    rw [Neighbourhood.coarsest]
    split
    next n hn => exact ⟨n, power, rfl, hn, by omega, le_rfl, fun hlt => absurd hlt (lt_irrefl _)⟩
    next hnone =>
      have hnext : power - 1 - (finer : Int) = power - (finer + 1 : Nat) := by omega
      obtain ⟨n, p, hcoarsest, hn, hlow, hhigh, hfirst⟩ := ih (by rw [hnext]; exact h)
      refine ⟨n, p, hcoarsest, hn, by omega, by omega, fun _ => ?_⟩
      rcases hhigh.lt_or_eq with hlt | rfl
      · exact hfirst hlt
      · rw [sub_add_cancel]
        exact hnone

section

variable {mantissa : Nat} {exponent : Int} (hpos : 0 < mantissa)
  (hmantissa : mantissa < 2 * hiddenBit) (hleast : minExponent ≤ exponent) (hmost : exponent ≤ 971)

theorem low_neighbourhood_le (mantissa : Nat) (exponent : Int) :
    (neighbourhood mantissa exponent).low ≤ (neighbourhood mantissa exponent).middle := by
  unfold neighbourhood
  dsimp only
  split <;> omega

include hpos hmantissa

theorem log2_lt : mantissa.log2 < 53 := by
  rw [Nat.log2_lt hpos.ne']
  exact hmantissa

include hleast hmost

/-- The shortest decimal of a positive double is the multiple of a power that is among the twenty-one
that are tried, and the next coarser one has no multiple. -/
theorem exists_shortest_eq : ∃ n p, shortest mantissa exponent = ⟨n, p⟩ ∧
    (neighbourhood mantissa exponent).multiple? p = some n ∧
    powerAbove mantissa exponent - 20 ≤ p ∧ p ≤ powerAbove mantissa exponent ∧
    (p < powerAbove mantissa exponent →
      (neighbourhood mantissa exponent).multiple? (p + 1) = none) := by
  have hlog := log2_lt hpos hmantissa
  have hleast' : -1074 ≤ exponent := hleast
  have habove : powerAbove mantissa exponent =
      (exponent + mantissa.log2 + 1) * 78913 / 262144 + 1 := rfl
  -- The last power of the search is smaller than half of the interval.
  have hlast : (10 : ℚ) ^ (powerAbove mantissa exponent - (20 : Nat)) <
      2 * 2 ^ (exponent - 2) := by
    rw [← zpow_one_add₀ two_ne_zero]
    rcases le_or_gt 0 (powerAbove mantissa exponent - (20 : Nat)) with hp | hp
    · exact ten_zpow_lt_of_nonneg hp (by omega)
    · exact ten_zpow_lt_of_nonpos hp.le (by omega)
  exact coarsest_spec (isSome_multiple? rfl (low_neighbourhood_le mantissa exponent) hlast)

/-- The shortest decimal of a positive double has digits, and it is not larger than what still rounds
to the double. -/
theorem shortest_spec :
    0 < (shortest mantissa exponent).digits ∧ -1000 ≤ (shortest mantissa exponent).exponent ∧
      ((shortest mantissa exponent).digits : ℚ) * 10 ^ (shortest mantissa exponent).exponent ≤
        ((4 * mantissa + 2 : Nat) : ℚ) * 2 ^ (exponent - 2) := by
  obtain ⟨n, p, hshortest, hn, hp, -⟩ := exists_shortest_eq hpos hmantissa hleast hmost
  have hspec := multiple?_spec hn
  have hleast' : -1074 ≤ exponent := hleast
  unfold powerAbove at hp
  rw [hshortest]
  exact ⟨hspec.1, by dsimp only; omega, hspec.2.le_high⟩

end

end SourceGrade.Binary64
