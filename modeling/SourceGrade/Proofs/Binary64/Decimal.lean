import SourceGrade.Proofs.Binary64.Nearest
import SourceGrade.Proofs.Binary64.Shortest

/-!
# Shortest decimals round to their doubles

The shortest decimal of a positive double is no other number for the rounding: the double nearest to it
is the one that it stands for (`nearestWord_shortest`), and its digits fit a word of 64 bits.
-/

namespace SourceGrade.Binary64

variable {num den word field mantissa : Nat} {exponent : Int} {x : Binary64}

/-! ## The ends of the interval -/

theorem high_neighbourhood_eq (h : Splits word field mantissa) :
    ((neighbourhood mantissa (field + minExponent)).high : ℚ) *
      2 ^ (neighbourhood mantissa (field + minExponent)).exponent = midpoint word := by
  have hhigh : (neighbourhood mantissa (field + minExponent)).high = 4 * mantissa + 2 := rfl
  have hexponent : (neighbourhood mantissa (field + minExponent)).exponent =
      field + minExponent - 1 - 1 := by
    show (field : ℤ) + minExponent - 2 = _
    ring
  rw [h.midpoint_eq, hhigh, hexponent, two_zpow_eq_double (field + minExponent - 1)]
  push_cast
  ring

theorem low_neighbourhood_eq (h : Splits (word + 1) field mantissa) :
    ((neighbourhood mantissa (field + minExponent)).low : ℚ) *
      2 ^ (neighbourhood mantissa (field + minExponent)).exponent = midpoint word := by
  have hword := h.word_eq
  have hmantissa := h.mantissa_lt
  have hpos : 0 < hiddenBit := by decide
  have hexponent : (neighbourhood mantissa (field + minExponent)).exponent =
      field + minExponent - 1 - 1 := by
    show (field : ℤ) + minExponent - 2 = _
    ring
  by_cases hstart : mantissa = hiddenBit ∧ (field : ℤ) + minExponent ≠ minExponent
  · -- The word below starts no binade but ends one, where the doubles lie twice as dense.
    obtain ⟨previous, rfl⟩ : ∃ previous, field = previous + 1 := ⟨field - 1, by omega⟩
    rw [Nat.succ_mul] at hword
    have hbelow : Splits word previous (2 * hiddenBit - 1) :=
      ⟨by omega, Or.inl (by omega), by omega⟩
    have hlow : (neighbourhood mantissa ((previous + 1 : Nat) + minExponent)).low = 4 * mantissa - 1 :=
      if_pos hstart
    have hsame : ((previous + 1 : Nat) : ℤ) + minExponent - 1 - 1 = previous + minExponent - 1 := by
      omega
    rw [hbelow.midpoint_eq, hlow, hexponent, hsame, hstart.1, Nat.cast_sub (by omega),
      Nat.cast_sub (by omega)]
    push_cast
    ring
  · -- Within a binade the word below has the mantissa below.
    obtain ⟨previous, rfl⟩ : ∃ previous, mantissa = previous + 1 := by
      refine ⟨mantissa - 1, ?_⟩
      rcases h.hidden with hhidden | rfl <;> omega
    have hbelow : Splits word field previous := by
      refine ⟨by omega, ?_, by omega⟩
      rcases h.hidden with hhidden | hzero
      · rcases hhidden.lt_or_eq with hlt | heq
        · exact Or.inl (Nat.le_of_lt_succ hlt)
        · exact Or.inr (by omega)
      · exact Or.inr hzero
    have hlow : (neighbourhood (previous + 1) (field + minExponent)).low =
        4 * (previous + 1) - 2 := if_neg hstart
    rw [hbelow.midpoint_eq, hlow, hexponent, two_zpow_eq_double (field + minExponent - 1),
      Nat.cast_sub (by omega)]
    push_cast
    ring

/-- What the neighbourhood of a double contains rounds to the double. -/
theorem nearestWord_of_contains (h : Splits word field mantissa) (hpos : 0 < mantissa)
    (hword : word < infinityWord) (hnum : 0 < num) (hden : 0 < den)
    (hcontains : (neighbourhood mantissa (field + minExponent)).Contains (num / den)) :
    nearestWord num den = word := by
  obtain ⟨previous, rfl⟩ : ∃ previous, word = previous + 1 := by
    have heq := h.word_eq
    exact ⟨word - 1, by omega⟩
  have heven : (neighbourhood mantissa (field + minExponent)).closed = true ↔ previous % 2 = 1 := by
    have hmod := h.mod_two_eq
    show decide (mantissa % 2 = 0) = true ↔ _
    rw [decide_eq_true_eq]
    omega
  obtain ⟨hlow, hhigh⟩ := hcontains
  rw [low_neighbourhood_eq h, heven] at hlow
  rw [high_neighbourhood_eq h, heven] at hhigh
  exact nearestWord_eq_of_between hnum hden hword hlow hhigh

/-! ## Doubles in parts -/

/-- A positive double has the mantissa and the exponent of its word. -/
theorem exists_splits_of_value (h : x.value = .finite false mantissa exponent) :
    x.word.toNat < infinityWord ∧ exponent ≤ 971 ∧
      ∃ field : Nat, Splits x.word.toNat field mantissa ∧ exponent = field + minExponent := by
  have hsplit := Nat.div_add_mod x.word.toNat hiddenBit
  have hmod := Nat.mod_lt x.word.toNat (by decide : hiddenBit > 0)
  have hinfinity : infinityWord = hiddenBit * 2047 := rfl
  have hsign : signBit = hiddenBit * 2048 := rfl
  have hsmall : x.word.toNat < signBit := by
    by_contra hlarge
    unfold value at h
    dsimp only at h
    rw [decide_eq_true (not_lt.1 hlarge)] at h
    split at h
    · split at h <;> cases h
    · split at h <;> cases h
  unfold value at h
  dsimp only at h
  rw [Nat.mod_eq_of_lt hsmall, decide_eq_false (not_le.2 hsmall)] at h
  split at h
  next => split at h <;> cases h
  next hinfinite =>
  have hfield : x.word.toNat / hiddenBit < 2048 := Nat.div_lt_of_lt_mul (hsign ▸ hsmall)
  have hfinite : x.word.toNat / hiddenBit < 2047 := by omega
  have hword : x.word.toNat < infinityWord := by
    rw [hinfinity, Nat.mul_comm]
    exact (Nat.div_lt_iff_lt_mul (by decide)).1 hfinite
  have hleast : minExponent = -1074 := rfl
  refine ⟨hword, ?_⟩
  split at h
  next hzero =>
    cases h
    rw [hzero, Nat.mul_zero] at hsplit
    exact ⟨by omega, 0, ⟨by omega, Or.inr rfl, by omega⟩, by omega⟩
  next hnormal =>
    cases h
    obtain ⟨field, hsucc⟩ := Nat.exists_eq_succ_of_ne_zero hnormal
    rw [hsucc, Nat.mul_succ, Nat.mul_comm] at hsplit
    exact ⟨by omega, field, ⟨by omega, Or.inl (by omega), by omega⟩, by omega⟩

/-! ## Shortest decimals -/

namespace Decimal

/-- What a decimal stands for. -/
def magnitude (d : Decimal) : ℚ := d.digits * 10 ^ d.exponent

/-- The word of the double nearest to a decimal. -/
def nearestWord (d : Decimal) : Nat :=
  Binary64.nearestWord (d.digits * powerOf 10 d.exponent) (powerOf 10 (-d.exponent))

theorem ratio_eq_magnitude (d : Decimal) :
    ((d.digits * powerOf 10 d.exponent : Nat) : ℚ) / (powerOf 10 (-d.exponent) : Nat) =
      d.magnitude :=
  mul_powerOf_div_powerOf (by decide) d.exponent d.digits

theorem nearestWord_congr {d d' : Decimal} (h : d.magnitude = d'.magnitude) :
    d.nearestWord = d'.nearestWord := by
  have hden (exponent : Int) : 0 < powerOf 10 exponent := powerOf_pos (by decide) exponent
  refine le_antisymm (nearestWord_mono (hden _) (hden _) ?_) (nearestWord_mono (hden _) (hden _) ?_)
  · rw [ratio_eq_magnitude, ratio_eq_magnitude, h]
  · rw [ratio_eq_magnitude, ratio_eq_magnitude, h]

end Decimal

/-- The double nearest to the shortest decimal of a positive double is that double. -/
theorem nearestWord_shortest (h : x.value = .finite false mantissa exponent) (hpos : 0 < mantissa) :
    (shortest mantissa exponent).nearestWord = x.word.toNat := by
  obtain ⟨hword, hmost, field, hsplits, rfl⟩ := exists_splits_of_value h
  obtain ⟨n, p, hshortest, hn, -⟩ :=
    exists_shortest_eq hpos hsplits.mantissa_lt (by omega) hmost
  obtain ⟨hdigits, hcontains⟩ := multiple?_spec hn
  rw [hshortest]
  refine nearestWord_of_contains hsplits hpos hword
    (Nat.mul_pos hdigits (powerOf_pos (by decide) p)) (powerOf_pos (by decide) (-p)) ?_
  rw [mul_powerOf_div_powerOf (by decide) p]
  exact hcontains

/-- The first power that is tried is not much smaller than the double. -/
theorem two_zpow_lt_powerAbove (hpos : 0 < mantissa) (hmantissa : mantissa < 2 * hiddenBit)
    (hleast : minExponent ≤ exponent) (hmost : exponent ≤ 971) :
    (2 : ℚ) ^ (exponent + mantissa.log2 + 1 - 8) < 10 ^ powerAbove mantissa exponent := by
  have hlog := log2_lt hpos hmantissa
  have hleast' : -1074 ≤ exponent := hleast
  have habove : powerAbove mantissa exponent =
      (exponent + mantissa.log2 + 1) * 78913 / 262144 + 1 := rfl
  -- The bounds on powers of ten from above are those from below of the inverses.
  rw [← inv_lt_inv₀ (by positivity) (by positivity), ← zpow_neg, ← zpow_neg]
  rcases le_or_gt 0 (powerAbove mantissa exponent) with hp | hp
  · exact ten_zpow_lt_of_nonpos (by omega) (by omega)
  · exact ten_zpow_lt_of_nonneg (by omega) (by omega)

/-- Its digits fit a word of 64 bits. -/
theorem digits_shortest_lt (hpos : 0 < mantissa) (hmantissa : mantissa < 2 * hiddenBit)
    (hleast : minExponent ≤ exponent) (hmost : exponent ≤ 971) :
    (shortest mantissa exponent).digits < UInt64.size := by
  obtain ⟨n, p, hshortest, hn, hlow, hhigh, hfirst⟩ :=
    exists_shortest_eq hpos hmantissa hleast hmost
  have hle : (n : ℚ) * 10 ^ p ≤ ((4 * mantissa + 2 : Nat) : ℚ) * 2 ^ (exponent - 2) :=
    (multiple?_spec hn).2.le_high
  have hunit : (0 : ℚ) < 2 ^ (exponent - 2) := by positivity
  rw [hshortest]
  rcases hhigh.lt_or_eq with hlt | rfl
  · -- The next coarser power has no multiple, so that it is at least half of the interval.
    have hcoarse : (2 : ℚ) * 2 ^ (exponent - 2) ≤ 10 ^ (p + 1) := by
      by_contra hsmall
      have hsome := isSome_multiple? (v := neighbourhood mantissa exponent) rfl
        (low_neighbourhood_le mantissa exponent) (not_le.1 hsmall)
      rw [hfirst hlt] at hsome
      cases hsome
    rw [zpow_add_one₀ (by norm_num)] at hcoarse
    have hbound : (n : ℚ) * 2 ^ (exponent - 2) ≤
        (5 * (4 * mantissa + 2) : Nat) * 2 ^ (exponent - 2) := by
      calc (n : ℚ) * 2 ^ (exponent - 2)
        _ ≤ n * (10 ^ p * 5) := by
          refine mul_le_mul_of_nonneg_left ?_ (Nat.cast_nonneg n)
          linarith
        _ = n * 10 ^ p * 5 := by ring
        _ ≤ (4 * mantissa + 2 : Nat) * 2 ^ (exponent - 2) * 5 := by gcongr
        _ = (5 * (4 * mantissa + 2) : Nat) * 2 ^ (exponent - 2) := by
          push_cast
          ring
    have hdigits : n ≤ 5 * (4 * mantissa + 2) := by
      exact_mod_cast le_of_mul_le_mul_right hbound hunit
    have hsize : 5 * (4 * (2 * hiddenBit) + 2) < UInt64.size := by decide
    show n < _
    omega
  · -- The first power that is tried is so large that few of it are enough.
    have hpower := two_zpow_lt_powerAbove hpos hmantissa hleast hmost
    have hlog : mantissa + 1 ≤ 2 ^ (mantissa.log2 + 1) := Nat.lt_log2_self
    have hbound : (n : ℚ) * 2 ^ (exponent + mantissa.log2 + 1 - 8) ≤
        (2 ^ 8 : Nat) * 2 ^ (exponent + mantissa.log2 + 1 - 8) := by
      calc (n : ℚ) * 2 ^ (exponent + mantissa.log2 + 1 - 8)
        _ ≤ n * 10 ^ powerAbove mantissa exponent := by gcongr
        _ ≤ (4 * mantissa + 2 : Nat) * 2 ^ (exponent - 2) := hle
        _ ≤ (4 * 2 ^ (mantissa.log2 + 1) : Nat) * 2 ^ (exponent - 2) := by
          gcongr
          omega
        _ = (2 ^ 8 : Nat) * 2 ^ (exponent + mantissa.log2 + 1 - 8) := by
          have hsplit : exponent + mantissa.log2 + 1 - 8 =
              ((mantissa.log2 + 1 : Nat) : ℤ) + (exponent - 2) - (6 : Nat) := by omega
          rw [hsplit, zpow_sub₀ two_ne_zero (_ + _), zpow_add₀ two_ne_zero, zpow_natCast,
            zpow_natCast]
          push_cast
          ring
    have hdigits : n ≤ 2 ^ 8 := by
      exact_mod_cast le_of_mul_le_mul_right hbound (by positivity)
    have hsize : 2 ^ 8 < UInt64.size := by decide
    exact hdigits.trans_lt hsize

end SourceGrade.Binary64
