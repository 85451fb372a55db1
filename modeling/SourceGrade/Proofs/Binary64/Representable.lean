import SourceGrade.Proofs.Binary64.Roundoff

/-!
# Bounds that rounding keeps

A number between two others that are doubles themselves is rounded to a double between them
(`Faithful`). So a chain of operations is followed by such bounds, and the errors of its steps are not
added up.
-/

namespace SourceGrade.Binary64

variable {num den word m n k : Nat} {q r : ℚ} {x y : Binary64}

/-! ## Doubles without a sign -/

/-- What a double without a sign stands for. -/
def size (x : Binary64) : ℚ := magnitude x.word.toNat

/-- A double that is neither infinite nor negative. -/
def IsMagnitude (x : Binary64) : Prop := x.word.toNat < infinityWord

/-- A number that a double stands for. -/
def Representable (r : ℚ) : Prop := ∃ word < infinityWord, magnitude word = r

/-- The double nearest to a number, the even one of two. -/
def RoundsTo (q : ℚ) (x : Binary64) : Prop :=
  ∃ num den : Nat, 0 < den ∧ (num : ℚ) / den = q ∧ x = ofRatio false num den

theorem size_nonneg (x : Binary64) : 0 ≤ x.size := magnitude_nonneg _

theorem ofNat_toNat_word (x : Binary64) : (⟨.ofNat x.word.toNat⟩ : Binary64) = x := by
  rw [UInt64.ofNat_toNat]

theorem IsMagnitude.exists_value_eq (hx : x.IsMagnitude) : ∃ mantissa exponent,
    x.value = .finite false mantissa exponent ∧ (mantissa : ℚ) * 2 ^ exponent = x.size := by
  have h := exists_value hx
  rwa [ofNat_toNat_word] at h

theorem toNat_word_ofRatio (num den : Nat) :
    (ofRatio false num den).word.toNat = nearestWord num den := by
  have hsize : infinityWord < UInt64.size := by decide
  rw [ofRatio_false]
  exact UInt64.toNat_ofNat_of_lt' ((nearestWord_le num den).trans_lt hsize)

/-- A mantissa and a power of two below it. -/
theorem representable_div_pow (hm : m < 2 * hiddenBit) (hk : k ≤ 1074) :
    Representable (m / 2 ^ k) := by
  obtain ⟨word, hword, heq⟩ := exists_magnitude_eq hm (by omega : 1074 - k ≤ 2045)
  have hexponent : ((1074 - k : Nat) : ℤ) + minExponent = -(k : ℤ) := by
    unfold minExponent
    omega
  refine ⟨word, hword, ?_⟩
  rw [heq, hexponent, zpow_neg, zpow_natCast, div_eq_mul_inv]

theorem representable_natCast (hn : n < 2 * hiddenBit) : Representable n := by
  have h := representable_div_pow hn (Nat.zero_le 1074)
  rwa [pow_zero, div_one] at h

/-- A natural number without the last digit of its binary fraction. -/
theorem representable_sub (hpos : 0 < n) (hn : n * 2 ^ k < 2 * hiddenBit) (hk : k ≤ 1074) :
    Representable (n - 1 / 2 ^ k) := by
  have hle : 1 ≤ n * 2 ^ k := Nat.mul_pos hpos (Nat.two_pow_pos k)
  have heq : (n : ℚ) - 1 / 2 ^ k = (n * 2 ^ k - 1 : Nat) / 2 ^ k := by
    rw [Nat.cast_sub hle]
    push_cast
    field_simp
  rw [heq]
  exact representable_div_pow (by omega) hk

theorem representable_add (hn : n * 2 ^ k + 1 < 2 * hiddenBit) (hk : k ≤ 1074) :
    Representable (n + 1 / 2 ^ k) := by
  have heq : (n : ℚ) + 1 / 2 ^ k = (n * 2 ^ k + 1 : Nat) / 2 ^ k := by
    push_cast
    field_simp
  rw [heq]
  exact representable_div_pow hn hk

/-! ## One rounding -/

/-- A double that no other double separates from a number. -/
structure Faithful (q : ℚ) (x : Binary64) : Prop where
  isMagnitude : x.IsMagnitude
  size_le : ∀ {r}, Representable r → q ≤ r → x.size ≤ r
  le_size : ∀ {r}, Representable r → r ≤ q → r ≤ x.size

theorem Faithful.size_eq (h : Faithful q x) (hq : Representable q) : x.size = q :=
  le_antisymm (h.size_le hq le_rfl) (h.le_size hq le_rfl)

/-- A factor so close to one that it does not lead from a double to the middle behind it. -/
def surplus : ℚ := 1 + 2 ^ (-54 : ℤ)

theorem surplus_pos : 0 < surplus := by
  unfold surplus
  positivity

theorem le_mul_surplus (hr : 0 ≤ r) : r ≤ r * surplus := by
  refine le_mul_of_one_le_right hr ?_
  rw [surplus]
  exact le_add_of_nonneg_right (by positivity)

theorem magnitude_mul_surplus_lt (word : Nat) : magnitude word * surplus < midpoint word := by
  obtain ⟨field, mantissa, h⟩ := exists_splits word
  have hmantissa : (mantissa : ℚ) < 2 ^ (53 : ℤ) := by exact_mod_cast h.mantissa_lt
  have hunit : (mantissa : ℚ) * 2 ^ (-54 : ℤ) * 2 < 1 := by
    calc (mantissa : ℚ) * 2 ^ (-54 : ℤ) * 2
      _ < 2 ^ (53 : ℤ) * 2 ^ (-54 : ℤ) * 2 := by gcongr
      _ = 1 := by norm_num
  rw [h.midpoint_eq, h.magnitude_eq, two_zpow_eq_double (field + minExponent), ← mul_assoc,
    mul_right_comm]
  refine mul_lt_mul_of_pos_right ?_ (zpow_pos two_pos _)
  rw [surplus, mul_add, mul_one, mul_comm (mantissa : ℚ) 2, mul_comm (2 : ℚ) mantissa, mul_right_comm]
  exact add_lt_add_right hunit _

namespace RoundsTo

variable (h : RoundsTo q x)

include h

theorem nonneg : 0 ≤ q := by
  obtain ⟨num, den, -, rfl, -⟩ := h
  positivity

theorem word_le (hle : q ≤ magnitude word * surplus) : x.word.toNat ≤ word := by
  obtain ⟨num, den, hden, rfl, rfl⟩ := h
  rw [toNat_word_ofRatio]
  by_contra hlt
  have hmiddle := midpoint_le_of_lt_nearestWord hden (not_le.1 hlt)
  exact (magnitude_mul_surplus_lt word).not_ge (hmiddle.trans hle)

theorem le_word (hword : word < infinityWord) (hle : magnitude word ≤ q) : word ≤ x.word.toNat := by
  obtain ⟨num, den, hden, rfl, rfl⟩ := h
  rw [toNat_word_ofRatio]
  by_contra hlt
  obtain ⟨previous, rfl⟩ : ∃ previous, word = previous + 1 := ⟨word - 1, by omega⟩
  have hmiddle := le_midpoint_of_nearestWord_le hden (by omega) (Nat.le_of_lt_succ (not_le.1 hlt))
  exact (midpoint_lt_magnitude previous).not_ge (hle.trans hmiddle)

/-- What exceeds a number by no more than the surplus is rounded as faithfully to it. -/
theorem faithful_of_le (hlow : r ≤ q) (hhigh : q ≤ r * surplus) (hroom : r ≤ hiddenBit) :
    Faithful r x where
  isMagnitude := by
    obtain ⟨word, hword, heq⟩ := representable_natCast (by decide : hiddenBit < 2 * hiddenBit)
    refine (h.word_le (hhigh.trans ?_)).trans_lt hword
    rw [heq]
    exact mul_le_mul_of_nonneg_right hroom surplus_pos.le
  size_le := by
    rintro bound ⟨word, -, rfl⟩ hle
    exact magnitude_mono (h.word_le (hhigh.trans (mul_le_mul_of_nonneg_right hle surplus_pos.le)))
  le_size := by
    rintro bound ⟨word, hword, rfl⟩ hle
    exact magnitude_mono (h.le_word hword (hle.trans hlow))

theorem faithful (hroom : q ≤ hiddenBit) : Faithful q x :=
  h.faithful_of_le le_rfl (le_mul_surplus h.nonneg) hroom

end RoundsTo

/-! ## Operations -/

theorem faithful_ofNat (hn : n ≤ hiddenBit) : Faithful n (ofNat n) := by
  have h : RoundsTo n (ofNat n) := ⟨n, 1, Nat.one_pos, by rw [Nat.cast_one, div_one], rfl⟩
  exact h.faithful (by exact_mod_cast hn)

theorem size_ofNat (hn : n ≤ hiddenBit) : (ofNat n).size = n := by
  have hroom : hiddenBit < 2 * hiddenBit := by decide
  exact (faithful_ofNat hn).size_eq (representable_natCast (hn.trans_lt hroom))

section

variable (hx : x.IsMagnitude) (hy : y.IsMagnitude)

include hx hy

theorem roundsTo_mul : RoundsTo (x.size * y.size) (x.mul y) := by
  obtain ⟨num, den, hden, heq, hratio⟩ := exists_mul_eq hx hy
  rw [ofNat_toNat_word, ofNat_toNat_word] at heq
  exact ⟨num, den, hden, hratio, heq⟩

theorem roundsTo_div (hpos : 0 < y.size) : RoundsTo (x.size / y.size) (x.div y) := by
  obtain ⟨num, den, hden, heq, hratio⟩ := exists_div_eq hx hy hpos
  rw [ofNat_toNat_word, ofNat_toNat_word] at heq
  exact ⟨num, den, hden, hratio, heq⟩

/-- A division by one or more stays in the range. -/
theorem isMagnitude_div (hone : 1 ≤ y.size) : (x.div y).IsMagnitude := by
  have hdiv := roundsTo_div hx hy (zero_lt_one.trans_le hone)
  exact (hdiv.word_le ((div_le_self x.size_nonneg hone).trans
    (le_mul_surplus x.size_nonneg))).trans_lt hx

omit hx hy in
/-- A mantissa in units of a smaller power of two. -/
theorem cast_mul_powerOf {least exponent : ℤ} (mantissa : Nat) (hle : least ≤ exponent) :
    ((mantissa * powerOf 2 (exponent - least) : Nat) : ℚ) * 2 ^ least = mantissa * 2 ^ exponent := by
  obtain ⟨shift, hshift⟩ := Int.eq_ofNat_of_zero_le (sub_nonneg.2 hle)
  obtain rfl : exponent = shift + least := by omega
  rw [hshift, zpow_add₀ two_ne_zero, zpow_natCast, ← mul_assoc]
  simp [powerOf]

theorem lt_iff_size_lt : x.lt y = true ↔ x.size < y.size := by
  obtain ⟨m, e, hvalue, hsize⟩ := hx.exists_value_eq
  obtain ⟨n, f, hvalue', hsize'⟩ := hy.exists_value_eq
  rw [← hsize, ← hsize', ← cast_mul_powerOf m (min_le_left e f),
    ← cast_mul_powerOf n (min_le_right e f), mul_lt_mul_iff_left₀ (by positivity), Nat.cast_lt, lt,
    hvalue, hvalue']
  simp only [signed, Bool.false_eq_true, if_false, decide_eq_true_eq, Int.ofNat_lt]

omit hx hy in
theorem abs_ofRatio (negative : Bool) (num den : Nat) :
    (ofRatio negative num den).abs = ofRatio false num den := by
  have hinfinity : infinityWord < signBit := by decide
  have hsign : 2 * signBit = UInt64.size := by decide
  have hword := nearestWord_le num den
  have hmod : ((if negative then signBit else 0) + nearestWord num den) % signBit =
      nearestWord num den := by
    split
    · rw [Nat.add_mod_left, Nat.mod_eq_of_lt (by omega)]
    · rw [Nat.zero_add, Nat.mod_eq_of_lt (by omega)]
  rw [abs, ofRatio_false, ofRatio, UInt64.toNat_ofNat_of_lt' (by split <;> omega), hmod]

/-- A difference is its exact value, rounded. -/
theorem exists_sub_eq : ∃ negative num den, 0 < den ∧ x.sub y = ofRatio negative num den ∧
    (num : ℚ) / den = |x.size - y.size| := by
  obtain ⟨m, e, hvalue, hsize⟩ := hx.exists_value_eq
  obtain ⟨n, f, hvalue', hsize'⟩ := hy.exists_value_eq
  have hm := cast_mul_powerOf m (min_le_left e f)
  have hn := cast_mul_powerOf n (min_le_right e f)
  let difference : ℤ := m * powerOf 2 (e - min e f) - n * powerOf 2 (f - min e f)
  refine ⟨_, difference.natAbs * powerOf 2 (min e f), powerOf 2 (-min e f), powerOf_pos two_pos _,
    by rw [sub, hvalue, hvalue']; rfl, ?_⟩
  have hpos : (0 : ℚ) < 2 ^ min e f := by positivity
  rw [mul_powerOf_div_powerOf two_pos, Nat.cast_natAbs, Int.cast_abs, Nat.cast_ofNat,
    ← abs_of_pos hpos, ← abs_mul, ← hsize, ← hsize', ← hm, ← hn, ← sub_mul]
  push_cast [difference]
  rfl

/-- The sign of a difference is lost in its absolute value. -/
theorem roundsTo_abs_sub : RoundsTo |x.size - y.size| (x.sub y).abs := by
  obtain ⟨negative, num, den, hden, heq, hratio⟩ := exists_sub_eq hx hy
  exact ⟨num, den, hden, hratio, by rw [heq, abs_ofRatio]⟩

/-- A difference is no larger than one of the two. -/
theorem isMagnitude_abs_sub : (x.sub y).abs.IsMagnitude := by
  have hsub := roundsTo_abs_sub hx hy
  have hxq := x.size_nonneg
  have hyq := y.size_nonneg
  rcases le_total x.size y.size with hle | hle
  · have hbound : |x.size - y.size| ≤ y.size := abs_le.2 ⟨by linarith, by linarith⟩
    exact (hsub.word_le (hbound.trans (le_mul_surplus hyq))).trans_lt hy
  · have hbound : |x.size - y.size| ≤ x.size := abs_le.2 ⟨by linarith, by linarith⟩
    exact (hsub.word_le (hbound.trans (le_mul_surplus hxq))).trans_lt hx

omit hy in
theorem truncate_eq (hk : k < signBit) (hlow : k ≤ x.size) (hhigh : x.size < k + 1) :
    x.truncate = k := by
  obtain ⟨m, e, hvalue, hsize⟩ := hx.exists_value_eq
  have hden : (0 : ℚ) < powerOf 2 (-e) := by exact_mod_cast powerOf_pos two_pos (-e)
  have hratio := mul_powerOf_div_powerOf two_pos e m
  rw [Nat.cast_ofNat, hsize] at hratio
  rw [← hratio, le_div_iff₀ hden] at hlow
  rw [← hratio, div_lt_iff₀ hden] at hhigh
  have hdiv : m * powerOf 2 e / powerOf 2 (-e) = k :=
    Nat.div_eq_of_lt_le (by exact_mod_cast hlow) (by exact_mod_cast hhigh)
  rw [truncate, hvalue]
  dsimp only [ratio]
  rw [hdiv, signed, if_neg Bool.false_ne_true, saturate]
  omega

end

/-! ## Whole quotients -/

/-- A number that misses the next natural number by a digit that there is room for is cut off to the
one below, and so is the double that it is rounded to. -/
theorem Faithful.truncate_eq (h : Faithful q x) (hroom : (n + 1) * 2 ^ k < 2 * hiddenBit)
    (hk : k ≤ 1074) (hlow : n ≤ q) (hhigh : q ≤ (n + 1 : Nat) - 1 / 2 ^ k) : x.truncate = n := by
  have hn : n + 1 ≤ (n + 1) * 2 ^ k := Nat.le_mul_of_pos_right _ (Nat.two_pow_pos k)
  have hsign : 2 * hiddenBit < signBit := by decide
  have hdigit : (0 : ℚ) < 1 / 2 ^ k := by positivity
  have hless := h.size_le (representable_sub (Nat.succ_pos n) hroom hk) hhigh
  refine Binary64.truncate_eq h.isMagnitude (by omega) ?_ ?_
  · exact h.le_size (representable_natCast (by omega)) hlow
  · push_cast at hless
    linarith

section

variable {divisor : Nat} (hpos : 0 < divisor) (hsmall : divisor ≤ 8)

include hpos hsmall

/-- What misses the next multiple of a divisor by a digit is divided into a quotient that misses the
next natural number by three digits more. -/
theorem div_le_sub (hq : q ≤ (divisor * (n + 1) : Nat) - 1 / 2 ^ k) :
    q / divisor ≤ (n + 1 : Nat) - 1 / 2 ^ (k + 3) := by
  have hposq : (0 : ℚ) < divisor := by exact_mod_cast hpos
  have hpart : (1 : ℚ) / 2 ^ (k + 3) ≤ 1 / 2 ^ k / divisor := by
    rw [pow_add, ← div_div]
    gcongr
    exact_mod_cast hsmall
  calc q / divisor
    _ ≤ ((divisor * (n + 1) : Nat) - 1 / 2 ^ k) / divisor := by gcongr
    _ = (n + 1 : Nat) - 1 / 2 ^ k / divisor := by
      rw [sub_div, Nat.cast_mul, mul_div_cancel_left₀ _ hposq.ne']
    _ ≤ (n + 1 : Nat) - 1 / 2 ^ (k + 3) := by linarith

/-- A whole quotient is the same after a rounding in front of the division and one behind it. -/
theorem Faithful.truncate_div (h : Faithful q x)
    (hroom : divisor * (n + 1) * 2 ^ (k + 3) < hiddenBit) (hk : k + 3 ≤ 1074)
    (hlow : (divisor * n : Nat) ≤ q) (hhigh : q ≤ (divisor * (n + 1) : Nat) - 1 / 2 ^ k) :
    (x.div (ofNat divisor)).truncate = n := by
  have hbit : 2 ^ 4 ≤ hiddenBit := by decide
  have hdivisor : divisor ≤ hiddenBit := by omega
  have hposq : (0 : ℚ) < divisor := by exact_mod_cast hpos
  -- There is room for all bounds, as the last one needs the most digits.
  have hpow : 2 ^ k ≤ 2 ^ (k + 3) := Nat.pow_le_pow_right two_pos (by omega)
  have hroomNext : divisor * (n + 1) * 2 ^ k < hiddenBit :=
    (Nat.mul_le_mul_left _ hpow).trans_lt hroom
  have hroomQuotient : (n + 1) * 2 ^ (k + 3) < hiddenBit :=
    (Nat.mul_le_mul_right _ (Nat.le_mul_of_pos_left _ hpos)).trans_lt hroom
  have hmultiple : divisor * (n + 1) < hiddenBit :=
    (Nat.le_mul_of_pos_right _ (Nat.two_pow_pos k)).trans_lt hroomNext
  have hsizeLow : (divisor * n : Nat) ≤ x.size :=
    h.le_size (representable_natCast (by nlinarith)) hlow
  have hsizeHigh : x.size ≤ (divisor * (n + 1) : Nat) - 1 / 2 ^ k :=
    h.size_le (representable_sub (by positivity) (by omega) (by omega)) hhigh
  have hbelow := div_le_sub hpos hsmall hsizeHigh
  have hdiv := roundsTo_div h.isMagnitude (faithful_ofNat hdivisor).isMagnitude
    (by rwa [size_ofNat hdivisor])
  rw [size_ofNat hdivisor] at hdiv
  have hquotient : Faithful (x.size / divisor) (x.div (ofNat divisor)) := by
    have hdigit : (0 : ℚ) < 1 / 2 ^ (k + 3) := by positivity
    have hfits : ((n + 1 : Nat) : ℚ) ≤ hiddenBit := by
      exact_mod_cast (Nat.le_mul_of_pos_right _ (Nat.two_pow_pos _)).trans hroomQuotient.le
    exact hdiv.faithful (by linarith)
  refine hquotient.truncate_eq (by omega) hk ?_ hbelow
  rw [le_div_iff₀ hposq, mul_comm]
  exact_mod_cast hsizeLow

end

/-! ## Shares -/

/-- The mantissa of the doubles nearest to a fifth and its halves, without its hidden bit. -/
def fifthFraction : Nat := 0x999999999999A

/-- Those doubles are too large, by no more than is lost in the next rounding. -/
theorem magnitude_fifth (field : Nat) :
    magnitude ((field + 1) * hiddenBit + fifthFraction) =
      surplus / 5 * 2 ^ (field + 55 + minExponent : ℤ) := by
  have h : Splits ((field + 1) * hiddenBit + fifthFraction) field (hiddenBit + fifthFraction) :=
    ⟨by ring, .inl (Nat.le_add_right _ _), by decide⟩
  have hpow : (2 : ℚ) ^ (field + 55 + minExponent : ℤ) = 2 ^ (field + minExponent : ℤ) * 2 ^ 55 := by
    rw [add_right_comm, zpow_add₀ two_ne_zero]
    rfl
  rw [h.magnitude_eq, hpow, surplus]
  norm_num [hiddenBit, fifthFraction]
  ring

/-- A share of a number is as faithful as if the factor had not been rounded. -/
theorem faithful_mul_share {den field : Nat} (hfield : field ≤ 2045)
    (hword : nearestWord 1 den = (field + 1) * hiddenBit + fifthFraction)
    (hden : (2 : ℚ) ^ (field + 55 + minExponent : ℤ) = 5 / den) (hn : n ≤ hiddenBit) :
    Faithful (n / den) ((ofNat n).mul (ofRatio false 1 den)) := by
  have hden0 : (0 : ℚ) < 5 / den := by
    rw [← hden]
    positivity
  have hone : (1 : ℚ) ≤ den := by
    rcases Nat.eq_zero_or_pos den with rfl | hpos
    · simp at hden0
    · exact_mod_cast hpos
  have hsize : (ofRatio false 1 den).size = surplus / den := by
    rw [size, toNat_word_ofRatio, hword, magnitude_fifth, hden]
    ring
  have hfinite : (ofRatio false 1 den).IsMagnitude := by
    have hinfinity : infinityWord = 2047 * hiddenBit := rfl
    have hmul := Nat.mul_le_mul_right hiddenBit hfield
    have hfraction : fifthFraction < hiddenBit := by decide
    rw [IsMagnitude, toNat_word_ofRatio, hword, Nat.succ_mul]
    omega
  have hmul := roundsTo_mul (faithful_ofNat hn).isMagnitude hfinite
  rw [size_ofNat hn, hsize, ← mul_div_assoc, mul_div_right_comm] at hmul
  refine hmul.faithful_of_le (le_mul_surplus (by positivity)) le_rfl ?_
  exact (div_le_self (Nat.cast_nonneg n) hone).trans (by exact_mod_cast hn)

theorem faithful_mul_tenth (hn : n ≤ hiddenBit) :
    Faithful (n / 10) ((ofNat n).mul (ofRatio false 1 10)) :=
  faithful_mul_share (by decide : 1018 ≤ 2045) (by decide +kernel) (by norm_num [minExponent]) hn

theorem faithful_mul_twentieth (hn : n ≤ hiddenBit) :
    Faithful (n / 20) ((ofNat n).mul (ofRatio false 1 20)) :=
  faithful_mul_share (by decide : 1017 ≤ 2045) (by decide +kernel) (by norm_num [minExponent]) hn

end SourceGrade.Binary64
