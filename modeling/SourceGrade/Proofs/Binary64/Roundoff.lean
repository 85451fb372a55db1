import SourceGrade.Proofs.Binary64.Nearest

/-!
# Accumulated rounding

One rounding changes a number by a factor that is no further from one than `slack`. Numbers that lie
as many such factors apart round to words that are no further apart (`nearestWord_le_add`).
-/

namespace SourceGrade.Binary64

variable {num den num' den' word field mantissa : Nat}

/-! ## Factors -/

/-- The factor between two neighbouring middles at most, and that of one rounding at least. -/
def slack : ℚ := 1 + 2 ^ (-53 : ℤ)

theorem slack_pos : 0 < slack := by
  unfold slack
  positivity

/-- A number of twice the hidden bit becomes larger by one. -/
theorem mul_slack (x : ℚ) : x * slack = x + x / (2 * hiddenBit : Nat) := by
  unfold slack hiddenBit
  norm_num
  ring

/-- Two magnitudes that `n` roundings may have brought apart. -/
structure Near (n : Nat) (a b : ℚ) : Prop where
  le : a ≤ b * slack ^ n
  ge : b ≤ a * slack ^ n

namespace Near

variable {m n : Nat} {a b c d : ℚ}

theorem refl (a : ℚ) : Near 0 a a := by
  constructor <;> rw [pow_zero, mul_one]

theorem symm (h : Near n a b) : Near n b a := ⟨h.ge, h.le⟩

theorem mul (h : Near m a b) (h' : Near n c d) (ha : 0 ≤ a) (hb : 0 ≤ b) (hc : 0 ≤ c) (hd : 0 ≤ d) :
    Near (m + n) (a * c) (b * d) := by
  have hslack := slack_pos
  constructor
  · calc a * c
      _ ≤ b * slack ^ m * (d * slack ^ n) := mul_le_mul h.le h'.le hc (by positivity)
      _ = b * d * slack ^ (m + n) := by ring
  · calc b * d
      _ ≤ a * slack ^ m * (c * slack ^ n) := mul_le_mul h.ge h'.ge hd (by positivity)
      _ = a * c * slack ^ (m + n) := by ring

theorem inv (h : Near n a b) (ha : 0 < a) (hb : 0 < b) : Near n a⁻¹ b⁻¹ := by
  constructor
  · rw [inv_mul_eq_div, inv_eq_one_div, div_le_div_iff₀ ha hb, one_mul, mul_comm]
    exact h.ge
  · rw [inv_mul_eq_div, inv_eq_one_div, div_le_div_iff₀ hb ha, one_mul, mul_comm]
    exact h.le

end Near

/-! ## Neighbouring middles -/

/-- A middle is followed by the next one after a unit of the last bit, or two at the end of a binade. -/
theorem Splits.le_midpoint_succ (h : Splits word field mantissa) :
    (2 * mantissa + 3) * 2 ^ (field + minExponent - 1) ≤ midpoint (word + 1) := by
  have hword := h.word_eq
  rcases (Nat.succ_le_of_lt h.mantissa_lt).lt_or_eq with hlt | hend
  · have hnext : Splits (word + 1) field (mantissa + 1) :=
      ⟨by omega, h.hidden.imp_left Nat.le_succ_of_le, hlt⟩
    rw [hnext.midpoint_eq, Nat.cast_succ]
    refine le_of_eq ?_
    ring
  · have hnext : Splits (word + 1) (field + 1) hiddenBit := by
      refine ⟨?_, Or.inl le_rfl, by decide⟩
      rw [Nat.succ_mul]
      omega
    have hmantissa : (mantissa : ℚ) + 1 = 2 * hiddenBit := by exact_mod_cast hend
    have hexponent : ((field + 1 : Nat) : ℤ) + minExponent - 1 - 1 = field + minExponent - 1 := by
      omega
    rw [hnext.midpoint_eq, two_zpow_eq_double (((field + 1 : Nat) : ℤ) + _ - 1), hexponent, ← mul_assoc]
    refine mul_le_mul_of_nonneg_right ?_ (by positivity)
    linarith

/-- No factor of one rounding leads from a middle to the next one. -/
theorem midpoint_mul_slack_lt (word : Nat) : midpoint word * slack < midpoint (word + 1) := by
  obtain ⟨field, mantissa, h⟩ := exists_splits word
  have hmantissa : (mantissa : ℚ) + 1 ≤ (2 * hiddenBit : Nat) := by exact_mod_cast h.mantissa_lt
  have hstep : (2 * mantissa + 1 : ℚ) / (2 * hiddenBit : Nat) < 2 := by
    rw [div_lt_iff₀ (by norm_num [hiddenBit])]
    linarith
  refine lt_of_lt_of_le ?_ h.le_midpoint_succ
  rw [h.midpoint_eq, mul_right_comm]
  gcongr
  rw [mul_slack]
  linarith

theorem midpoint_mul_pow_slack_lt (word : Nat) (n : Nat) :
    midpoint word * slack ^ (n + 1) < midpoint (word + n + 1) := by
  have hslack := slack_pos
  induction n with
  | zero =>
    rw [zero_add, pow_one]
    exact midpoint_mul_slack_lt word
  | succ n ih =>
    -- Every further factor leads to less than one further middle.
    calc midpoint word * slack ^ (n + 1 + 1)
      _ = midpoint word * slack ^ (n + 1) * slack := by ring
      _ < midpoint (word + n + 1) * slack := by gcongr
      _ < midpoint (word + (n + 1) + 1) := midpoint_mul_slack_lt _

/-- Words are no further apart than the roundings between what they round. -/
theorem nearestWord_le_add {n : Nat} (hden : 0 < den) (hden' : 0 < den')
    (h : Near n ((num : ℚ) / den) (num' / den')) :
    nearestWord num den ≤ nearestWord num' den' + n := by
  cases n with
  | zero =>
    have hle := h.le
    rw [pow_zero, mul_one] at hle
    exact nearestWord_mono hden hden' hle
  | succ n =>
    by_contra hlt
    rw [not_le] at hlt
    have hword := hlt.trans_le (nearestWord_le num den)
    -- The one ratio would be below the middle of its word, the other one beyond as many middles more.
    have hbeyond := midpoint_le_of_lt_nearestWord hden hlt
    have hbelow := le_midpoint_of_nearestWord_le hden' (by omega) (le_refl (nearestWord num' den'))
    have hslack := slack_pos
    refine (midpoint_mul_pow_slack_lt (nearestWord num' den') n).not_ge ?_
    calc midpoint (nearestWord num' den' + n + 1)
      _ ≤ num / den := hbeyond
      _ ≤ num' / den' * slack ^ (n + 1) := h.le
      _ ≤ midpoint (nearestWord num' den') * slack ^ (n + 1) := by gcongr

/-! ## One rounding -/

section

variable (hword : hiddenBit ≤ word)

include hword

theorem Splits.hiddenBit_le (h : Splits word field mantissa) : hiddenBit ≤ mantissa := by
  rcases h.hidden with hhidden | rfl
  · exact hhidden
  · have heq := h.word_eq
    omega

theorem midpoint_le_magnitude_mul : midpoint word ≤ magnitude word * slack := by
  obtain ⟨field, mantissa, h⟩ := exists_splits word
  have hhidden : (hiddenBit : ℚ) ≤ mantissa := by exact_mod_cast h.hiddenBit_le hword
  have hunit : 1 ≤ (mantissa * 2 : ℚ) / (2 * hiddenBit : Nat) := by
    rw [le_div_iff₀ (by norm_num [hiddenBit])]
    push_cast
    linarith
  rw [h.midpoint_eq, h.magnitude_eq, two_zpow_eq_double (field + minExponent), ← mul_assoc,
    mul_right_comm]
  refine mul_le_mul_of_nonneg_right ?_ (zpow_nonneg zero_le_two _)
  rw [mul_slack]
  linarith

theorem magnitude_succ_le_midpoint_mul : magnitude (word + 1) ≤ midpoint word * slack := by
  obtain ⟨field, mantissa, h⟩ := exists_splits word
  have hhidden : (hiddenBit : ℚ) ≤ mantissa := by exact_mod_cast h.hiddenBit_le hword
  have hunit : 1 ≤ (2 * mantissa + 1 : ℚ) / (2 * hiddenBit : Nat) := by
    rw [le_div_iff₀ (by norm_num [hiddenBit])]
    push_cast
    linarith
  rw [h.midpoint_eq, h.magnitude_succ_eq, two_zpow_eq_double (field + minExponent), ← mul_assoc,
    mul_right_comm _ _ slack]
  refine mul_le_mul_of_nonneg_right ?_ (zpow_nonneg zero_le_two _)
  rw [mul_slack]
  linarith

end

/-- Unless it is among the smallest ones or beyond all doubles, a ratio is one rounding away from the
magnitude of its word. -/
theorem near_magnitude_nearestWord (hden : 0 < den) (hlow : hiddenBit < nearestWord num den)
    (hhigh : nearestWord num den < infinityWord) :
    Near 1 (magnitude (nearestWord num den)) (num / den) := by
  have hslack := slack_pos
  obtain ⟨previous, hprevious⟩ : ∃ previous, nearestWord num den = previous + 1 :=
    ⟨nearestWord num den - 1, by omega⟩
  -- The ratio is between the middles below and above its word.
  have hbelow := le_midpoint_of_nearestWord_le hden hhigh (le_refl _)
  have habove := midpoint_le_of_lt_nearestWord hden (by omega : previous < nearestWord num den)
  constructor
  · rw [pow_one, hprevious]
    exact (magnitude_succ_le_midpoint_mul (by omega)).trans
      (mul_le_mul_of_nonneg_right habove hslack.le)
  · rw [pow_one]
    exact hbelow.trans (midpoint_le_magnitude_mul hlow.le)

/-! ## No rounding -/

/-- A mantissa at any exponent is the magnitude of a word. -/
theorem exists_magnitude_eq (hmantissa : mantissa < 2 * hiddenBit) (hfield : field ≤ 2045) :
    ∃ word < infinityWord, magnitude word = mantissa * 2 ^ (field + minExponent) := by
  have hinfinity : infinityWord = 2047 * hiddenBit := rfl
  induction field generalizing mantissa with
  | zero =>
    have heq := magnitude_mul_add (Or.inr (rfl : 0 = 0)) hmantissa.le
    rw [Nat.zero_mul, Nat.zero_add] at heq
    exact ⟨mantissa, by omega, heq⟩
  | succ field ih =>
    rcases Nat.lt_or_ge mantissa hiddenBit with hsmall | hnormal
    · -- There is room for another binary digit.
      have hdouble : 2 * mantissa < 2 * hiddenBit := by omega
      obtain ⟨word, hword, heq⟩ := ih hdouble (by omega)
      refine ⟨word, hword, ?_⟩
      have hexponent : ((field + 1 : Nat) : ℤ) + minExponent - 1 = field + minExponent := by omega
      rw [heq, two_zpow_eq_double ((field + 1 : Nat) + minExponent), hexponent]
      push_cast
      ring
    · have hmul := Nat.mul_le_mul_right hiddenBit hfield
      exact ⟨(field + 1) * hiddenBit + mantissa, by omega,
        magnitude_mul_add (Or.inl hnormal) hmantissa.le⟩

theorem magnitude_nearestWord_of_eq (hden : 0 < den) (hmantissa : mantissa < 2 * hiddenBit)
    (hfield : field ≤ 2045) (h : (num : ℚ) / den = mantissa * 2 ^ (field + minExponent)) :
    magnitude (nearestWord num den) = num / den := by
  obtain ⟨word, hword, heq⟩ := exists_magnitude_eq hmantissa hfield
  rw [← heq] at h
  rw [nearestWord_of_eq_magnitude hden hword h, h]

/-- Integers that a mantissa has room for are doubles. -/
theorem magnitude_nearestWord_of_lt {n : Nat} (h : n < 2 * hiddenBit) :
    magnitude (nearestWord n 1) = n := by
  have hratio : (n : ℚ) / (1 : Nat) = n * 2 ^ ((1074 : Nat) + minExponent) := by
    simp [minExponent]
  rw [magnitude_nearestWord_of_eq Nat.one_pos h (by omega) hratio, Nat.cast_one, div_one]

/-- So are powers of ten whose powers of five it has room for. -/
theorem magnitude_nearestWord_pow_ten {k : Nat} (h : k ≤ 22) :
    magnitude (nearestWord (10 ^ k) 1) = (10 ^ k : Nat) := by
  have hfive : 5 ^ k < 2 * hiddenBit :=
    (Nat.pow_le_pow_right (by decide) h).trans_lt (by decide : 5 ^ 22 < 2 * hiddenBit)
  have hratio : ((10 ^ k : Nat) : ℚ) / (1 : Nat) =
      (5 ^ k : Nat) * 2 ^ ((1074 + k : Nat) + minExponent) := by
    have hexponent : ((1074 + k : Nat) : ℤ) + minExponent = k := by
      unfold minExponent
      omega
    rw [hexponent, Nat.cast_one, div_one, zpow_natCast, Nat.cast_pow, Nat.cast_pow, ← mul_pow]
    norm_num
  rw [magnitude_nearestWord_of_eq Nat.one_pos hfive (by omega) hratio, Nat.cast_one, div_one]

/-! ## Integers and quotients -/

theorem hiddenBit_lt_nearestWord_ofNat {n : Nat} (hpos : 0 < n) : hiddenBit < nearestWord n 1 := by
  have hone : hiddenBit < nearestWord 1 1 := by decide +kernel
  exact hone.trans_le (nearestWord_ofNat_mono hpos)

/-- An integer is brought to a double with one rounding, or with none if it is a double itself. -/
theorem near_magnitude_ofNat {n : Nat} {exact : Prop} [Decidable exact]
    (hexact : exact → magnitude (nearestWord n 1) = n) (hpos : ¬exact → 0 < n)
    (hfinite : nearestWord n 1 < infinityWord) :
    Near (if exact then 0 else 1) (magnitude (nearestWord n 1)) n := by
  split
  next h =>
    rw [hexact h]
    exact Near.refl _
  next h =>
    have hnear := near_magnitude_nearestWord Nat.one_pos (hiddenBit_lt_nearestWord_ofNat (hpos h))
      hfinite
    rwa [Nat.cast_one, div_one] at hnear

/-- A quotient is its exact value, rounded. -/
theorem exists_div_eq {word word' : Nat} (hword : word < infinityWord)
    (hword' : word' < infinityWord) (hpos : 0 < magnitude word') : ∃ num den, 0 < den ∧
      div ⟨.ofNat word⟩ ⟨.ofNat word'⟩ = ofRatio false num den ∧
      (num : ℚ) / den = magnitude word / magnitude word' := by
  obtain ⟨m, e, hvalue, hmagnitude⟩ := exists_value hword
  obtain ⟨n, f, hvalue', hmagnitude'⟩ := exists_value hword'
  have hn : 0 < n := by
    rw [← hmagnitude'] at hpos
    exact_mod_cast (mul_pos_iff_of_pos_right (by positivity)).1 hpos
  refine ⟨m * powerOf 2 (e - f), powerOf 2 (-(e - f)) * n,
    Nat.mul_pos (powerOf_pos two_pos _) hn, ?_, ?_⟩
  · rw [div, hvalue, hvalue']
    dsimp only
    rw [if_neg hn.ne']
    rfl
  · have hne : (n : ℚ) ≠ 0 := by exact_mod_cast hn.ne'
    rw [Nat.cast_mul (powerOf 2 (-(e - f))), ← div_div, mul_powerOf_div_powerOf two_pos,
      Nat.cast_ofNat, zpow_sub₀ two_ne_zero, ← hmagnitude, ← hmagnitude']
    field_simp

end SourceGrade.Binary64
