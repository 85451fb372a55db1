import SourceGrade.Proofs.Binary64.Rounding

/-!
# The nearest word

Where the words of two neighbouring magnitudes meet: a ratio rounds to the larger one if it is beyond
the middle between them, or in the middle and the larger word is even (`succ_le_nearestWord_iff`).
-/

namespace SourceGrade.Binary64

variable {num den word field mantissa : Nat}

theorem two_zpow_eq_double (exponent : ℤ) : (2 : ℚ) ^ exponent = 2 * 2 ^ (exponent - 1) := by
  rw [← zpow_one_add₀ two_ne_zero, add_sub_cancel]

/-! ## Words in their binades -/

/-- A word in parts: the multiple of the hidden bit that it exceeds by a mantissa. The smallest
magnitudes alone have mantissas without the hidden bit. -/
structure Splits (word field mantissa : Nat) : Prop where
  word_eq : word = field * hiddenBit + mantissa
  hidden : hiddenBit ≤ mantissa ∨ field = 0
  mantissa_lt : mantissa < 2 * hiddenBit

theorem exists_splits (word : Nat) : ∃ field mantissa, Splits word field mantissa := by
  have hmod := Nat.mod_lt word (by decide : hiddenBit > 0)
  have hsplit := Nat.div_add_mod word hiddenBit
  rw [Nat.mul_comm] at hsplit
  cases hfield : word / hiddenBit with
  | zero =>
    rw [hfield] at hsplit
    exact ⟨0, word % hiddenBit, hsplit.symm, Or.inr rfl, by omega⟩
  | succ field =>
    rw [hfield, Nat.succ_mul] at hsplit
    exact ⟨field, word % hiddenBit + hiddenBit, by omega, Or.inl (by omega), by omega⟩

/-- At the end of a binade the mantissa may have reached the start of the next one. -/
theorem magnitude_mul_add (hhidden : hiddenBit ≤ mantissa ∨ field = 0)
    (hmantissa : mantissa ≤ 2 * hiddenBit) :
    magnitude (field * hiddenBit + mantissa) = mantissa * 2 ^ (field + minExponent) := by
  have hpos : 0 < hiddenBit := by decide
  unfold magnitude
  rw [Nat.mul_comm, Nat.mul_add_div hpos, Nat.mul_add_mod]
  rcases Nat.lt_or_ge mantissa hiddenBit with hsmall | hnormal
  · rcases hhidden with hge | rfl
    · exact absurd hge (Nat.not_le.2 hsmall)
    · rw [Nat.div_eq_of_lt hsmall, Nat.mod_eq_of_lt hsmall, if_pos rfl, Nat.cast_zero, zero_add]
  · rcases hmantissa.eq_or_lt with rfl | hlt
    · -- Twice the hidden bit is the hidden bit one binade further.
      rw [Nat.mul_div_cancel _ hpos, Nat.mul_mod_left, if_neg (by omega), Nat.zero_add]
      have hnext : ((field + 2 : Nat) : ℤ) - 1 + minExponent = 1 + (field + minExponent) := by omega
      rw [hnext, zpow_one_add₀ two_ne_zero]
      push_cast
      ring
    · have hdiv : mantissa / hiddenBit = 1 := Nat.div_eq_of_lt_le (by omega) (by omega)
      rw [hdiv, Nat.mod_eq_sub_mod hnormal, Nat.mod_eq_of_lt (by omega), if_neg (by omega),
        Nat.sub_add_cancel hnormal]
      have hsame : ((field + 1 : Nat) : ℤ) - 1 + minExponent = field + minExponent := by omega
      rw [hsame]

namespace Splits

variable (h : Splits word field mantissa)

include h

theorem magnitude_eq : magnitude word = mantissa * 2 ^ (field + minExponent) := by
  rw [h.word_eq, magnitude_mul_add h.hidden h.mantissa_lt.le]

theorem magnitude_succ_eq : magnitude (word + 1) = (mantissa + 1) * 2 ^ (field + minExponent) := by
  have hmantissa := h.mantissa_lt
  rw [h.word_eq, Nat.add_assoc,
    magnitude_mul_add (h.hidden.imp_left Nat.le_succ_of_le) hmantissa, Nat.cast_succ]

theorem mod_two_eq : word % 2 = mantissa % 2 := by
  rw [h.word_eq, Nat.add_mod, Nat.mul_mod]
  have heven : hiddenBit % 2 = 0 := rfl
  rw [heven, Nat.mul_zero, Nat.zero_mod, Nat.zero_add, Nat.mod_mod]

end Splits

theorem magnitude_lt_succ (word : Nat) : magnitude word < magnitude (word + 1) := by
  obtain ⟨field, mantissa, h⟩ := exists_splits word
  rw [h.magnitude_eq, h.magnitude_succ_eq]
  gcongr
  exact lt_add_one _

theorem magnitude_pos (hpos : 0 < word) : 0 < magnitude word := by
  obtain ⟨previous, rfl⟩ : ∃ previous, word = previous + 1 := ⟨word - 1, by omega⟩
  exact (magnitude_nonneg previous).trans_lt (magnitude_lt_succ previous)

/-! ## Middles -/

/-- The middle between the magnitude of a word and the next one. -/
def midpoint (word : Nat) : ℚ := (magnitude word + magnitude (word + 1)) / 2

theorem Splits.midpoint_eq (h : Splits word field mantissa) :
    midpoint word = (2 * mantissa + 1) * 2 ^ (field + minExponent - 1) := by
  rw [midpoint, h.magnitude_eq, h.magnitude_succ_eq, two_zpow_eq_double]
  ring

/-- A middle lies in the binade of its word. -/
theorem Splits.midpoint_lt (h : Splits word field mantissa) :
    midpoint word < 2 ^ (field + minExponent + 53) := by
  have hlt : 2 * mantissa + 1 < 4 * hiddenBit := by
    have hmantissa := h.mantissa_lt
    omega
  have hpow : (2 : ℚ) ^ (field + minExponent + 53) =
      (4 * hiddenBit : Nat) * 2 ^ (field + minExponent - 1) := by
    rw [Nat.cast_mul, cast_hiddenBit, Nat.cast_ofNat, mul_assoc, ← zpow_add₀ two_ne_zero,
      (by norm_num : (4 : ℚ) = 2 ^ (2 : ℤ)), ← zpow_add₀ two_ne_zero]
    congr 1
    ring
  rw [h.midpoint_eq, hpow]
  gcongr
  exact_mod_cast hlt

theorem Splits.lt_midpoint (h : Splits word field mantissa) (hhidden : hiddenBit ≤ mantissa) :
    2 ^ (field + minExponent + 52) < midpoint word := by
  have hlt : 2 * hiddenBit < 2 * mantissa + 1 := by omega
  have hpow : (2 : ℚ) ^ (field + minExponent + 52) =
      (2 * hiddenBit : Nat) * 2 ^ (field + minExponent - 1) := by
    rw [Nat.cast_mul, cast_hiddenBit, Nat.cast_ofNat, mul_assoc, ← zpow_add₀ two_ne_zero,
      ← zpow_one_add₀ two_ne_zero]
    congr 1
    ring
  rw [h.midpoint_eq, hpow]
  gcongr
  exact_mod_cast hlt

theorem magnitude_lt_midpoint (word : Nat) : magnitude word < midpoint word := by
  have hlt := magnitude_lt_succ word
  unfold midpoint
  linarith

theorem midpoint_lt_magnitude (word : Nat) : midpoint word < magnitude (word + 1) := by
  have hlt := magnitude_lt_succ word
  unfold midpoint
  linarith

/-! ## Rounding at a middle -/

theorem lastExponent_le (num den : Nat) : minExponent ≤ lastExponent num den := le_max_right _ _

/-- Rounding in units of the last bit compares with the middle between two of them. -/
theorem succ_le_lastMantissa_iff (hden : 0 < den) {k : Nat} : k + 1 ≤ lastMantissa num den ↔
    (2 * k + 1) * (2 : ℚ) ^ (lastExponent num den - 1) < num / den ∨
      ((2 * k + 1) * (2 : ℚ) ^ (lastExponent num den - 1) = num / den ∧ k % 2 = 1) := by
  have hdenq : (0 : ℚ) < den := by exact_mod_cast hden
  unfold lastMantissa
  generalize lastExponent num den = e
  have hdouble := two_zpow_eq_double e
  have hle : (2 * k + 1) * (den * powerOf 2 e) ≤ 2 * (num * powerOf 2 (-e)) ↔
      (2 * k + 1) * (2 : ℚ) ^ (e - 1) ≤ num / den := by
    rw [← Nat.mul_assoc, ← Nat.mul_assoc, le_mul_powerOf_iff two_pos, le_div_iff₀ hdenq]
    push_cast
    rw [hdouble]
    constructor <;> intro h <;> linarith
  have hge : 2 * (num * powerOf 2 (-e)) ≤ (2 * k + 1) * (den * powerOf 2 e) ↔
      num / den ≤ (2 * k + 1) * (2 : ℚ) ^ (e - 1) := by
    rw [← Nat.mul_assoc, ← Nat.mul_assoc, mul_powerOf_le_iff two_pos, div_le_iff₀ hdenq]
    push_cast
    rw [hdouble]
    constructor <;> intro h <;> linarith
  rw [succ_le_roundRatio_iff (Nat.mul_pos hden (powerOf_pos two_pos _)), ← Nat.not_le, hge, not_le,
    le_antisymm_iff, hle, hge, ← le_antisymm_iff]

theorem succ_le_nearestWord_iff (hnum : 0 < num) (hden : 0 < den) (hword : word < infinityWord) :
    word + 1 ≤ nearestWord num den ↔
      midpoint word < num / den ∨ (midpoint word = num / den ∧ word % 2 = 1) := by
  obtain ⟨field, mantissa, h⟩ := exists_splits word
  obtain ⟨hlow, hhigh⟩ := floorLog2_spec hnum hden
  obtain ⟨shift, hshift⟩ := Int.eq_ofNat_of_zero_le (sub_nonneg.2 (lastExponent_le num den))
  have hexponent : lastExponent num den = shift + minExponent := by omega
  have hlog := floorLog2_sub_le num den
  have hmantissa := h.mantissa_lt
  rw [nearestWord_eq hnum, le_min_iff, and_iff_left (Nat.succ_le_of_lt hword), hshift,
    Int.toNat_natCast]
  rcases Nat.lt_trichotomy field shift with hlt | rfl | hgt
  · -- The ratio lies in a later binade, beyond the middles of this one.
    have hnormal := le_lastMantissa hnum hden (by omega)
    have hmul := Nat.mul_le_mul_right hiddenBit (Nat.succ_le_of_lt hlt)
    rw [Nat.succ_mul] at hmul
    have hbinade : floorLog2 num den = shift + minExponent + 52 := by
      unfold lastExponent at hexponent
      omega
    refine iff_of_true ?_ (Or.inl ?_)
    · rw [h.word_eq]
      omega
    · calc midpoint word
        _ < 2 ^ (field + minExponent + 53) := h.midpoint_lt
        _ ≤ 2 ^ floorLog2 num den := zpow_le_zpow_right₀ one_le_two (by omega)
        _ ≤ num / den := hlow
  · -- In one binade the mantissas are compared.
    have hiff : mantissa + 1 ≤ lastMantissa num den ↔ _ := succ_le_lastMantissa_iff hden
    rw [hexponent] at hiff
    rw [h.midpoint_eq, h.mod_two_eq, ← hiff, h.word_eq]
    omega
  · -- The ratio lies in an earlier binade, which may be rounded to the first word of this one.
    have hhidden := h.hidden.resolve_right (by omega)
    have hmost := lastMantissa_le hnum hden
    have hmul := Nat.mul_le_mul_right hiddenBit (Nat.succ_le_of_lt hgt)
    rw [Nat.succ_mul] at hmul
    have hbelow : (num : ℚ) / den < midpoint word := by
      calc (num : ℚ) / den
        _ < 2 ^ (floorLog2 num den + 1) := hhigh
        _ ≤ 2 ^ (field + minExponent + 52) := zpow_le_zpow_right₀ one_le_two (by omega)
        _ < midpoint word := h.lt_midpoint hhidden
    refine iff_of_false ?_ ?_
    · rw [h.word_eq]
      omega
    · rintro (habove | ⟨hmiddle, -⟩)
      · exact lt_asymm hbelow habove
      · exact hbelow.ne' hmiddle

theorem midpoint_le_of_lt_nearestWord (hden : 0 < den) (h : word < nearestWord num den) :
    midpoint word ≤ num / den := by
  have hnum : 0 < num := by
    rcases Nat.eq_zero_or_pos num with rfl | hpos
    · cases h
    · exact hpos
  have hiff := succ_le_nearestWord_iff hnum hden (h.trans_le (nearestWord_le num den))
  rcases hiff.1 h with hlt | ⟨heq, -⟩
  · exact hlt.le
  · exact heq.le

theorem le_midpoint_of_nearestWord_le (hden : 0 < den) (hword : word < infinityWord)
    (h : nearestWord num den ≤ word) : num / den ≤ midpoint word := by
  rcases Nat.eq_zero_or_pos num with rfl | hnum
  · rw [Nat.cast_zero, zero_div]
    exact (magnitude_nonneg word).trans (magnitude_lt_midpoint word).le
  · have hiff := succ_le_nearestWord_iff hnum hden hword
    exact not_lt.1 fun hlt => Nat.not_succ_le_self _ ((hiff.2 (Or.inl hlt)).trans h)

/-- A ratio between the middles around a word rounds to it; it may be one of them if the word is
even. -/
theorem nearestWord_eq_of_between (hnum : 0 < num) (hden : 0 < den) (hword : word + 1 < infinityWord)
    (hlow : midpoint word < num / den ∨ (midpoint word = num / den ∧ word % 2 = 1))
    (hhigh : num / den < midpoint (word + 1) ∨
      (num / den = midpoint (word + 1) ∧ word % 2 = 1)) :
    nearestWord num den = word + 1 := by
  refine le_antisymm (Nat.le_of_lt_succ (Nat.lt_of_not_le fun h => ?_))
    ((succ_le_nearestWord_iff hnum hden (by omega)).2 hlow)
  rcases (succ_le_nearestWord_iff hnum hden hword).1 h with habove | ⟨hmiddle, hodd⟩
  · rcases hhigh with hbelow | ⟨heq, -⟩
    · exact lt_asymm habove hbelow
    · exact habove.ne' heq
  · rcases hhigh with hbelow | ⟨-, heven⟩
    · exact hbelow.ne' hmiddle
    · omega

/-- The magnitude of a word rounds to the word. -/
theorem nearestWord_of_eq_magnitude (hden : 0 < den) (hword : word < infinityWord)
    (h : num / den = magnitude word) : nearestWord num den = word := by
  refine le_antisymm (not_lt.1 fun hlt => ?_) (not_lt.1 fun hlt => ?_)
  · have hmiddle := midpoint_le_of_lt_nearestWord hden hlt
    exact (magnitude_lt_midpoint word).not_ge (h ▸ hmiddle)
  · obtain ⟨previous, rfl⟩ : ∃ previous, word = previous + 1 := ⟨word - 1, by omega⟩
    have hmiddle := le_midpoint_of_nearestWord_le hden (by omega) (Nat.le_of_lt_succ hlt)
    exact (midpoint_lt_magnitude previous).not_ge (h ▸ hmiddle)

end SourceGrade.Binary64
