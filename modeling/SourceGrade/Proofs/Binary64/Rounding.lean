import Mathlib.Algebra.Order.Field.Power
import Mathlib.Algebra.Order.Field.Rat
import Mathlib.Tactic.FieldSimp
import Mathlib.Tactic.Linarith
import Mathlib.Tactic.NormNum
import Mathlib.Tactic.Positivity
import Mathlib.Tactic.Ring
import SourceGrade.Binary64.Arithmetic

/-!
# Rounding is monotone

A larger ratio never rounds to a smaller double. The words of doubles ascend with their magnitudes, so
that the same holds for products of rounded numbers.
-/

namespace SourceGrade.Binary64

variable {num den num' den' : Nat}

/-! ## Powers -/

theorem powerOf_pos {base : Nat} (hbase : 0 < base) (exponent : Int) : 0 < powerOf base exponent :=
  Nat.pow_pos hbase

/-- The two powers of opposite exponents are the numerator and the denominator of one power. -/
theorem cast_powerOf {base : Nat} (hbase : 0 < base) (exponent : Int) :
    (powerOf base exponent : ℚ) = (base : ℚ) ^ exponent * powerOf base (-exponent) := by
  have hne : (base : ℚ) ≠ 0 := by positivity
  obtain ⟨n, rfl | rfl⟩ := exponent.eq_nat_or_neg
  · simp [powerOf]
  · simp [powerOf, hne]

section

variable {base a b : Nat} (hbase : 0 < base) (exponent : Int)

include hbase

theorem mul_powerOf_div_powerOf (n : Nat) :
    ((n * powerOf base exponent : Nat) : ℚ) / (powerOf base (-exponent) : Nat) =
      n * (base : ℚ) ^ exponent := by
  have hne : (powerOf base (-exponent) : ℚ) ≠ 0 := by
    exact_mod_cast (powerOf_pos hbase _).ne'
  rw [Nat.cast_mul, cast_powerOf hbase exponent, ← mul_assoc, mul_div_cancel_right₀ _ hne]

theorem mul_powerOf_le_iff :
    a * powerOf base (-exponent) ≤ b * powerOf base exponent ↔
      (a : ℚ) ≤ b * (base : ℚ) ^ exponent := by
  have hpos : (0 : ℚ) < powerOf base (-exponent) := by exact_mod_cast powerOf_pos hbase _
  rw [← Nat.cast_le (α := ℚ), Nat.cast_mul, Nat.cast_mul, cast_powerOf hbase exponent, ← mul_assoc,
    mul_le_mul_iff_left₀ hpos]

theorem le_mul_powerOf_iff :
    b * powerOf base exponent ≤ a * powerOf base (-exponent) ↔
      (b : ℚ) * (base : ℚ) ^ exponent ≤ a := by
  have hpos : (0 : ℚ) < powerOf base (-exponent) := by exact_mod_cast powerOf_pos hbase _
  rw [← Nat.cast_le (α := ℚ), Nat.cast_mul, Nat.cast_mul, cast_powerOf hbase exponent, ← mul_assoc,
    mul_le_mul_iff_left₀ hpos]

end

/-! ## Logarithms -/

theorem floorLog2_spec (hnum : 0 < num) (hden : 0 < den) :
    (2 : ℚ) ^ floorLog2 num den ≤ (num : ℚ) / den ∧
      (num : ℚ) / den < (2 : ℚ) ^ (floorLog2 num den + 1) := by
  have hdenq : (0 : ℚ) < den := by exact_mod_cast hden
  have hnumLow : (2 : ℚ) ^ (num.log2 : ℤ) ≤ num := by
    exact_mod_cast Nat.log2_self_le hnum.ne'
  have hnumHigh : (num : ℚ) < 2 ^ ((num.log2 : ℤ) + 1) := by
    exact_mod_cast (Nat.lt_log2_self (n := num))
  have hdenLow : (2 : ℚ) ^ (den.log2 : ℤ) ≤ den := by
    exact_mod_cast Nat.log2_self_le hden.ne'
  have hdenHigh : (den : ℚ) < 2 ^ ((den.log2 : ℤ) + 1) := by
    exact_mod_cast (Nat.lt_log2_self (n := den))
  -- The logarithms of numerator and denominator leave the choice between two neighbours.
  have hlow : (2 : ℚ) ^ ((num.log2 : ℤ) - den.log2 - 1) ≤ num / den := by
    rw [le_div_iff₀ hdenq]
    calc (2 : ℚ) ^ ((num.log2 : ℤ) - den.log2 - 1) * den
      _ ≤ 2 ^ ((num.log2 : ℤ) - den.log2 - 1) * 2 ^ ((den.log2 : ℤ) + 1) := by gcongr
      _ = 2 ^ (num.log2 : ℤ) := by
        rw [← zpow_add₀ two_ne_zero]
        congr 1
        ring
      _ ≤ num := hnumLow
  have hhigh : (num : ℚ) / den < 2 ^ ((num.log2 : ℤ) - den.log2 + 1) := by
    rw [div_lt_iff₀ hdenq]
    calc (num : ℚ)
      _ < 2 ^ ((num.log2 : ℤ) + 1) := hnumHigh
      _ = 2 ^ ((num.log2 : ℤ) - den.log2 + 1) * 2 ^ (den.log2 : ℤ) := by
        rw [← zpow_add₀ two_ne_zero]
        congr 1
        ring
      _ ≤ 2 ^ ((num.log2 : ℤ) - den.log2 + 1) * den := by gcongr
  have htest : den * powerOf 2 ((num.log2 : ℤ) - den.log2) ≤
      num * powerOf 2 (-((num.log2 : ℤ) - den.log2)) ↔
      (2 : ℚ) ^ ((num.log2 : ℤ) - den.log2) ≤ num / den := by
    rw [le_mul_powerOf_iff two_pos, le_div_iff₀ hdenq, mul_comm]
    rfl
  unfold floorLog2
  dsimp only
  split
  next h => exact ⟨htest.1 h, hhigh⟩
  next h =>
    refine ⟨hlow, ?_⟩
    rw [sub_add_cancel]
    exact not_le.1 (mt htest.2 h)

/-- The logarithm is at most that of a larger ratio. -/
theorem floorLog2_mono (hnum : 0 < num) (hden : 0 < den) (hnum' : 0 < num') (hden' : 0 < den')
    (h : (num : ℚ) / den ≤ num' / den') : floorLog2 num den ≤ floorLog2 num' den' := by
  have hlow := (floorLog2_spec hnum hden).1
  have hhigh := (floorLog2_spec hnum' hden').2
  have hlt := (zpow_lt_zpow_iff_right₀ (by norm_num : (1 : ℚ) < 2)).1 ((hlow.trans h).trans_lt hhigh)
  omega

/-! ## Rounding to an integer -/

theorem succ_le_roundRatio_iff (hden : 0 < den) {k : Nat} : k + 1 ≤ roundRatio num den ↔
    (2 * k + 1) * den < 2 * num ∨ ((2 * k + 1) * den = 2 * num ∧ k % 2 = 1) := by
  have hsplit := Nat.div_add_mod num den
  have hmod := Nat.mod_lt num hden
  unfold roundRatio
  dsimp only
  generalize num / den = floor at *
  generalize num % den = remainder at *
  have hk : (2 * k + 1) * den = 2 * (den * k) + den := by ring
  rcases Nat.lt_trichotomy k floor with hlt | heq | hgt
  · have hmul : den * (k + 1) ≤ den * floor := Nat.mul_le_mul_left den hlt
    rw [Nat.mul_succ] at hmul
    constructor
    · intro _
      left
      omega
    · intro _
      split <;> omega
  · rw [heq] at hk ⊢
    constructor
    · intro h
      split at h <;> omega
    · intro h
      rw [if_pos (by omega)]
  · have hmul : den * (floor + 1) ≤ den * k := Nat.mul_le_mul_left den hgt
    rw [Nat.mul_succ] at hmul
    constructor
    · intro h
      split at h <;> omega
    · intro h
      omega

theorem roundRatio_mono (hden : 0 < den) (hden' : 0 < den') (h : num * den' ≤ num' * den) :
    roundRatio num den ≤ roundRatio num' den' := by
  cases hround : roundRatio num den with
  | zero => exact Nat.zero_le _
  | succ k =>
    have hk := (succ_le_roundRatio_iff hden).1 (Nat.le_of_eq hround.symm)
    refine (succ_le_roundRatio_iff hden').2 ?_
    -- Both sides are compared over the common denominator.
    have hscale : 2 * num * den' ≤ 2 * num' * den := by
      rw [Nat.mul_assoc, Nat.mul_assoc]
      exact Nat.mul_le_mul_left 2 h
    have hswap : (2 * k + 1) * den' * den = (2 * k + 1) * den * den' := by ring
    rcases hk with hlt | ⟨heq, hodd⟩
    · left
      apply Nat.lt_of_mul_lt_mul_right (a := den)
      rw [hswap]
      exact (Nat.mul_lt_mul_of_pos_right hlt hden').trans_le hscale
    · have hle : (2 * k + 1) * den' ≤ 2 * num' := by
        apply Nat.le_of_mul_le_mul_right _ hden
        rw [hswap, heq]
        exact hscale
      omega

theorem roundRatio_le (hden : 0 < den) {bound : Nat} (h : num ≤ bound * den) :
    roundRatio num den ≤ bound := by
  have hone : roundRatio bound 1 = bound := by simp [roundRatio, Nat.mod_one]
  rw [← hone]
  exact roundRatio_mono hden Nat.one_pos (by omega)

theorem le_roundRatio (hden : 0 < den) {bound : Nat} (h : bound * den ≤ num) :
    bound ≤ roundRatio num den := by
  have hone : roundRatio bound 1 = bound := by simp [roundRatio, Nat.mod_one]
  rw [← hone]
  exact roundRatio_mono Nat.one_pos hden (by omega)

/-! ## Rounding to a double -/

/-- The exponent of the last bit of the double nearest to a ratio. -/
def lastExponent (num den : Nat) : Int := max (floorLog2 num den - 52) minExponent

/-- The ratio in units of that bit, rounded. -/
def lastMantissa (num den : Nat) : Nat :=
  roundRatio (num * powerOf 2 (-lastExponent num den)) (den * powerOf 2 (lastExponent num den))

theorem nearestWord_eq (hnum : 0 < num) : nearestWord num den =
    min ((lastExponent num den - minExponent).toNat * hiddenBit + lastMantissa num den)
      infinityWord :=
  if_neg hnum.ne'

theorem floorLog2_sub_le (num den : Nat) : floorLog2 num den - 52 ≤ lastExponent num den :=
  le_max_left _ _

theorem cast_hiddenBit : (hiddenBit : ℚ) = 2 ^ (52 : ℤ) := by norm_num [hiddenBit]

theorem lastMantissa_le (hnum : 0 < num) (hden : 0 < den) :
    lastMantissa num den ≤ 2 * hiddenBit := by
  have hdenq : (0 : ℚ) < den := by exact_mod_cast hden
  have hhigh := (floorLog2_spec hnum hden).2
  have hexponent := floorLog2_sub_le num den
  refine roundRatio_le (Nat.mul_pos hden (powerOf_pos two_pos _)) ?_
  rw [← Nat.mul_assoc, mul_powerOf_le_iff two_pos]
  rw [div_lt_iff₀ hdenq] at hhigh
  push_cast
  calc (num : ℚ)
    _ ≤ 2 ^ (floorLog2 num den + 1) * den := hhigh.le
    _ ≤ 2 ^ (53 + lastExponent num den) * den :=
      mul_le_mul_of_nonneg_right (zpow_le_zpow_right₀ one_le_two (by omega)) hdenq.le
    _ = 2 * hiddenBit * den * 2 ^ lastExponent num den := by
      rw [cast_hiddenBit, zpow_add₀ two_ne_zero]
      ring

theorem le_lastMantissa (hnum : 0 < num) (hden : 0 < den)
    (h : minExponent < lastExponent num den) : hiddenBit ≤ lastMantissa num den := by
  have hdenq : (0 : ℚ) < den := by exact_mod_cast hden
  have hlow := (floorLog2_spec hnum hden).1
  have hexponent : lastExponent num den = floorLog2 num den - 52 := by
    unfold lastExponent at h ⊢
    omega
  refine le_roundRatio (Nat.mul_pos hden (powerOf_pos two_pos _)) ?_
  rw [← Nat.mul_assoc, le_mul_powerOf_iff two_pos]
  rw [le_div_iff₀ hdenq] at hlow
  push_cast
  calc (hiddenBit : ℚ) * den * 2 ^ lastExponent num den
    _ = 2 ^ floorLog2 num den * den := by
      have hsum : floorLog2 num den = 52 + lastExponent num den := by omega
      rw [cast_hiddenBit, hsum, zpow_add₀ two_ne_zero]
      ring
    _ ≤ num := hlow

/-- A larger ratio does not round to a smaller word. -/
theorem nearestWord_mono (hden : 0 < den) (hden' : 0 < den')
    (h : (num : ℚ) / den ≤ num' / den') : nearestWord num den ≤ nearestWord num' den' := by
  have hdenq : (0 : ℚ) < den := by exact_mod_cast hden
  have hdenq' : (0 : ℚ) < den' := by exact_mod_cast hden'
  have hcross : num * den' ≤ num' * den := by
    rw [div_le_div_iff₀ hdenq hdenq'] at h
    exact_mod_cast h
  cases Nat.eq_zero_or_pos num with
  | inl hzero =>
    rw [hzero]
    exact Nat.zero_le _
  | inr hnum =>
    have hnum' : 0 < num' := by
      rcases Nat.eq_zero_or_pos num' with hzero | hpos
      · rw [hzero, Nat.zero_mul] at hcross
        exact absurd hcross (Nat.not_le.2 (Nat.mul_pos hnum hden'))
      · exact hpos
    rw [nearestWord_eq hnum, nearestWord_eq hnum']
    refine min_le_min_right infinityWord ?_
    have hlog := floorLog2_mono hnum hden hnum' hden' h
    have hexponent : lastExponent num den ≤ lastExponent num' den' := by
      unfold lastExponent
      omega
    have hleast : minExponent ≤ lastExponent num den := le_max_right _ _
    rcases hexponent.lt_or_eq with hlt | heq
    · -- The mantissas cannot make up for the next exponent.
      have hhigh := lastMantissa_le hnum hden
      have hlow := le_lastMantissa hnum' hden' (hleast.trans_lt hlt)
      have hstep : (lastExponent num den - minExponent).toNat + 1 ≤
          (lastExponent num' den' - minExponent).toNat := by omega
      have hmul := Nat.mul_le_mul_right hiddenBit hstep
      rw [Nat.succ_mul] at hmul
      omega
    · rw [heq]
      refine Nat.add_le_add_left ?_ _
      unfold lastMantissa
      rw [heq]
      refine roundRatio_mono (Nat.mul_pos hden (powerOf_pos two_pos _))
        (Nat.mul_pos hden' (powerOf_pos two_pos _)) ?_
      calc num * powerOf 2 (-lastExponent num' den') * (den' * powerOf 2 (lastExponent num' den'))
        _ = num * den' * (powerOf 2 (-lastExponent num' den') *
            powerOf 2 (lastExponent num' den')) := by ring
        _ ≤ num' * den * (powerOf 2 (-lastExponent num' den') *
            powerOf 2 (lastExponent num' den')) := Nat.mul_le_mul_right _ hcross
        _ = _ := by ring

theorem nearestWord_ofNat_mono {m n : Nat} (h : m ≤ n) : nearestWord m 1 ≤ nearestWord n 1 := by
  refine nearestWord_mono Nat.one_pos Nat.one_pos ?_
  gcongr

/-! ## Magnitudes of words -/

/-- What a word without a sign stands for. -/
def magnitude (word : Nat) : ℚ :=
  if word / hiddenBit = 0 then (word % hiddenBit : Nat) * 2 ^ minExponent
  else (word % hiddenBit + hiddenBit : Nat) * 2 ^ ((word / hiddenBit : Nat) - 1 + minExponent)

/-- The words of finite magnitudes. -/
theorem exists_value {word : Nat} (hword : word < infinityWord) : ∃ mantissa exponent,
    value ⟨.ofNat word⟩ = .finite false mantissa exponent ∧
      (mantissa : ℚ) * 2 ^ exponent = magnitude word := by
  have hsign : infinityWord < signBit := by decide
  have hsize : signBit < UInt64.size := by decide
  have hsmall : word < signBit := by omega
  have htoNat : (UInt64.ofNat word).toNat = word := UInt64.toNat_ofNat_of_lt' (by omega)
  have hexponent : word / hiddenBit ≠ 2047 := by
    have hinfinity : infinityWord = 2047 * hiddenBit := rfl
    have hlt := Nat.div_lt_of_lt_mul (by rw [Nat.mul_comm]; omega : word < hiddenBit * 2047)
    omega
  unfold value magnitude
  dsimp only
  rw [htoNat, Nat.mod_eq_of_lt hsmall, if_neg hexponent, decide_eq_false (by omega)]
  split
  next => exact ⟨_, _, rfl, rfl⟩
  next => exact ⟨_, _, rfl, rfl⟩

/-- Words ascend with their magnitudes. -/
theorem magnitude_mono {word word' : Nat} (h : word ≤ word') : magnitude word ≤ magnitude word' := by
  have hdiv : word / hiddenBit ≤ word' / hiddenBit := Nat.div_le_div_right h
  have hsplit := Nat.div_add_mod word hiddenBit
  have hsplit' := Nat.div_add_mod word' hiddenBit
  have hmod := Nat.mod_lt word (by decide : hiddenBit > 0)
  unfold magnitude
  generalize hexponent : word / hiddenBit = exponent at *
  generalize hexponent' : word' / hiddenBit = exponent' at *
  rcases hdiv.eq_or_lt with heq | hlt
  · have hfraction : word % hiddenBit ≤ word' % hiddenBit := by
      rw [heq] at hsplit
      omega
    rw [heq]
    split
    next => gcongr
    next => gcongr
  · -- Between them lies the power of two that the larger one starts at.
    have hfraction : ((word % hiddenBit : Nat) : ℚ) ≤ hiddenBit := by exact_mod_cast hmod.le
    rw [if_neg (by omega : exponent' ≠ 0)]
    calc _
      _ ≤ (hiddenBit : ℚ) * 2 ^ ((exponent' : ℤ) - 1 + minExponent) := by
        split
        next hzero =>
          have hpow : (2 : ℚ) ^ minExponent ≤ 2 ^ ((exponent' : ℤ) - 1 + minExponent) :=
            zpow_le_zpow_right₀ one_le_two (by omega)
          gcongr
        next hpos =>
          have hpow : (2 : ℚ) ^ ((exponent : ℤ) + minExponent) ≤
              2 ^ ((exponent' : ℤ) - 1 + minExponent) := zpow_le_zpow_right₀ one_le_two (by omega)
          have hdouble : (2 : ℚ) ^ ((exponent : ℤ) + minExponent) =
              2 * 2 ^ ((exponent : ℤ) - 1 + minExponent) := by
            rw [← zpow_one_add₀ two_ne_zero]
            congr 1
            ring
          push_cast
          calc ((word % hiddenBit : Nat) + hiddenBit : ℚ) * 2 ^ ((exponent : ℤ) - 1 + minExponent)
            _ ≤ (hiddenBit + hiddenBit) * 2 ^ ((exponent : ℤ) - 1 + minExponent) := by gcongr
            _ = hiddenBit * 2 ^ ((exponent : ℤ) + minExponent) := by
              rw [hdouble]
              ring
            _ ≤ hiddenBit * 2 ^ ((exponent' : ℤ) - 1 + minExponent) := by gcongr
      _ ≤ _ := by
        gcongr
        omega

theorem magnitude_nonneg (word : Nat) : 0 ≤ magnitude word := by
  unfold magnitude
  split <;> positivity

/-! ## Products -/

theorem nearestWord_le (num den : Nat) : nearestWord num den ≤ infinityWord := by
  unfold nearestWord
  split
  next => exact Nat.zero_le _
  next => exact min_le_right _ _

theorem ofRatio_false (num den : Nat) : ofRatio false num den = ⟨.ofNat (nearestWord num den)⟩ := by
  unfold ofRatio
  rw [if_neg Bool.false_ne_true, Nat.zero_add]

theorem isInfinite_ofRatio_iff :
    (ofRatio false num den).isInfinite = false ↔ nearestWord num den < infinityWord := by
  rw [ofRatio_false]
  constructor
  · intro h
    refine (nearestWord_le num den).lt_of_ne fun heq => ?_
    rw [heq] at h
    exact absurd h (by decide)
  · intro h
    obtain ⟨mantissa, exponent, hvalue, -⟩ := exists_value h
    rw [isInfinite, hvalue]

/-- A product is its exact value, rounded. -/
theorem exists_mul_eq {word word' : Nat} (hword : word < infinityWord)
    (hword' : word' < infinityWord) : ∃ num den, 0 < den ∧
      mul ⟨.ofNat word⟩ ⟨.ofNat word'⟩ = ofRatio false num den ∧
      (num : ℚ) / den = magnitude word * magnitude word' := by
  obtain ⟨m, e, hvalue, hmagnitude⟩ := exists_value hword
  obtain ⟨n, f, hvalue', hmagnitude'⟩ := exists_value hword'
  refine ⟨m * n * powerOf 2 (e + f), powerOf 2 (-(e + f)), powerOf_pos two_pos _, ?_, ?_⟩
  · rw [mul, hvalue, hvalue']
    rfl
  · rw [mul_powerOf_div_powerOf two_pos, Nat.cast_ofNat, zpow_add₀ two_ne_zero, ← hmagnitude,
      ← hmagnitude', Nat.cast_mul]
    ring

/-- If a product of two numbers is no infinity, neither is one of smaller numbers. -/
theorem isInfinite_mul_ofNat_mono {a a' b b' : Nat} (ha : a ≤ a') (hb : b ≤ b')
    (hfinite : (ofNat a').isInfinite = false) (hfinite' : (ofNat b').isInfinite = false)
    (h : ((ofNat a').mul (ofNat b')).isInfinite = false) :
    ((ofNat a).mul (ofNat b)).isInfinite = false := by
  have hword := nearestWord_ofNat_mono ha
  have hword' := nearestWord_ofNat_mono hb
  unfold ofNat at hfinite hfinite' h ⊢
  rw [isInfinite_ofRatio_iff] at hfinite hfinite'
  simp only [ofRatio_false] at h ⊢
  obtain ⟨num', den', hden', hmul', hvalue'⟩ := exists_mul_eq hfinite hfinite'
  obtain ⟨num, den, hden, hmul, hvalue⟩ :=
    exists_mul_eq (hword.trans_lt hfinite) (hword'.trans_lt hfinite')
  rw [hmul', isInfinite_ofRatio_iff] at h
  rw [hmul, isInfinite_ofRatio_iff]
  refine (nearestWord_mono hden hden' ?_).trans_lt h
  rw [hvalue, hvalue']
  exact mul_le_mul (magnitude_mono hword) (magnitude_mono hword') (magnitude_nonneg _)
    (magnitude_nonneg _)

end SourceGrade.Binary64
