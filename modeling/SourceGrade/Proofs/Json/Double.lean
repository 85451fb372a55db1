import SourceGrade.Proofs.Binary64.Shortest
import SourceGrade.Proofs.Json.Number

/-!
# Doubles read back

Every finite double that is printed is a number for the reader: no product of its digits and a power of
ten goes beyond the doubles. What is no finite number is printed as a word that is no number.
-/

namespace SourceGrade.Json

open Binary64 (ofNat shortest hiddenBit minExponent)

/-! ## Products that are doubles -/

/-- A significand, a power of ten and their product have doubles near them. -/
def HasProduct (significand power : Nat) : Prop :=
  (ofNat significand).isInfinite = false ∧ (ofNat (10 ^ power)).isInfinite = false ∧
    ((ofNat significand).mul (ofNat (10 ^ power))).isInfinite = false

instance (significand power : Nat) : Decidable (HasProduct significand power) :=
  inferInstanceAs (Decidable (_ ∧ _ ∧ _))

/-- Then smaller ones have too, so that the reader takes them. -/
theorem exists_scaled_of_hasProduct {significand significand' power power' : Nat}
    (h : HasProduct significand' power') (hsignificand : significand ≤ significand')
    (hpower : power ≤ power') (hmax : power ≤ maxPower) :
    ∃ y, scaled significand power = .ok y := by
  have hproduct := Binary64.isInfinite_mul_ofNat_mono hsignificand
    (Nat.pow_le_pow_right (by decide : 10 > 0) hpower) h.1 h.2.1 h.2.2
  unfold scaled
  rw [scale, if_pos (by omega), if_neg (by omega)]
  refine ⟨_, if_neg ?_⟩
  rw [Bool.not_eq_true]
  exact hproduct

/-- The end of the magnitudes that round to a double other than the largest one. -/
def productLimit : Nat := (4 * (2 * hiddenBit - 2) + 2) * 2 ^ 969

/-- A word and a power of ten so small that its product with any word is a double. -/
theorem hasProduct_word : HasProduct UInt64.size 288 := by decide +kernel

theorem hasProduct_limit : ∀ i < 20, HasProduct (productLimit / 10 ^ (289 + i)) (289 + i) := by
  decide +kernel

/-- The digits of the largest double, cut off at any place. -/
theorem hasProduct_largest : ∀ n < 17, HasProduct (17976931348623157 / 10 ^ n) (292 + n) := by
  decide +kernel

theorem shortest_largest : shortest (2 * hiddenBit - 1) 971 = ⟨17976931348623157, 292⟩ := by
  decide +kernel

theorem exists_scaled_of_le_limit {significand k : Nat} (hword : significand < UInt64.size)
    (hk : k ≤ maxPower) (hlimit : significand * 10 ^ k ≤ productLimit) :
    ∃ y, scaled significand k = .ok y := by
  have hmax : maxPower = 308 := rfl
  rcases Nat.lt_or_ge k 289 with hsmall | hlarge
  · exact exists_scaled_of_hasProduct hasProduct_word hword.le (by omega) hk
  · obtain ⟨i, rfl⟩ := Nat.exists_eq_add_of_le hlarge
    refine exists_scaled_of_hasProduct (hasProduct_limit i (by omega)) ?_ (le_refl _) hk
    exact (Nat.le_div_iff_mul_le (by positivity)).2 hlimit

theorem exists_scaled_of_le_largest {significand n : Nat} (hpos : 0 < significand)
    (hdigits : significand * 10 ^ n ≤ 17976931348623157) :
    ∃ y, scaled significand (292 + n : Nat) = .ok y := by
  have hn : n < 17 := by
    have hlt : 10 ^ n < 10 ^ 17 := by
      have hone : 1 * 10 ^ n ≤ significand * 10 ^ n := Nat.mul_le_mul_right _ hpos
      omega
    exact (Nat.pow_lt_pow_iff_right (by decide)).1 hlt
  have hmax : maxPower = 308 := rfl
  refine exists_scaled_of_hasProduct (hasProduct_largest n hn) ?_ (le_refl _) (by omega)
  exact (Nat.le_div_iff_mul_le (by positivity)).2 hdigits

/-! ## Shortest decimals -/

section

variable {mantissa : Nat} {exponent : Int} (hmantissa : mantissa < 2 * hiddenBit)
  (hmost : exponent ≤ 971)

include hmantissa hmost

/-- What rounds to a double has no more than 309 digits. -/
theorem high_lt : ((4 * mantissa + 2 : Nat) : ℚ) * 2 ^ (exponent - 2) < 10 ^ (309 : ℤ) := by
  have hhigh : ((4 * mantissa + 2 : Nat) : ℚ) ≤ 2 ^ (55 : ℤ) := by
    have hle : 4 * mantissa + 2 ≤ 2 ^ 55 := by
      unfold hiddenBit at hmantissa
      omega
    exact_mod_cast hle
  calc ((4 * mantissa + 2 : Nat) : ℚ) * 2 ^ (exponent - 2)
    _ ≤ 2 ^ (55 : ℤ) * 2 ^ (969 : ℤ) :=
      mul_le_mul hhigh (zpow_le_zpow_right₀ one_le_two (by omega)) (by positivity) (by positivity)
    _ = 2 ^ (1024 : ℤ) := by
      rw [← zpow_add₀ two_ne_zero]
      rfl
    _ < 10 ^ (309 : ℤ) := by
      have hlt : 2 ^ 1024 < 10 ^ 309 := by decide +kernel
      exact_mod_cast hlt

theorem high_le_productLimit (hlargest : ¬(mantissa = 2 * hiddenBit - 1 ∧ exponent = 971)) :
    ((4 * mantissa + 2 : Nat) : ℚ) * 2 ^ (exponent - 2) ≤ (productLimit : Nat) := by
  have hlimit : ((productLimit : Nat) : ℚ) = (4 * (2 * hiddenBit - 2) + 2 : Nat) * 2 ^ (969 : ℤ) := by
    unfold productLimit
    rw [Nat.cast_mul, Nat.cast_pow]
    rfl
  rw [hlimit]
  rcases hmost.lt_or_eq with hlt | heq
  · -- One binary digit less makes up for any mantissa.
    have hle : 4 * mantissa + 2 ≤ 2 * (4 * (2 * hiddenBit - 2) + 2) := by
      unfold hiddenBit at hmantissa ⊢
      omega
    have hdouble : (2 : ℚ) ^ (969 : ℤ) = 2 * 2 ^ (968 : ℤ) := by
      rw [← zpow_one_add₀ two_ne_zero]
      rfl
    calc ((4 * mantissa + 2 : Nat) : ℚ) * 2 ^ (exponent - 2)
      _ ≤ (2 * (4 * (2 * hiddenBit - 2) + 2) : Nat) * 2 ^ (968 : ℤ) :=
        mul_le_mul (by exact_mod_cast hle) (zpow_le_zpow_right₀ one_le_two (by omega))
          (by positivity) (by positivity)
      _ = (4 * (2 * hiddenBit - 2) + 2 : Nat) * 2 ^ (969 : ℤ) := by
        rw [hdouble, Nat.cast_mul]
        ring
  · have hle : 4 * mantissa + 2 ≤ 4 * (2 * hiddenBit - 2) + 2 := by omega
    rw [heq]
    exact mul_le_mul_of_nonneg_right (by exact_mod_cast hle) (by positivity)

end

/-- The shortest decimal of a double never goes beyond the doubles when it is read. -/
theorem scalable_shortest {mantissa : Nat} {exponent : Int} (hpos : 0 < mantissa)
    (hmantissa : mantissa < 2 * hiddenBit) (hleast : minExponent ≤ exponent)
    (hmost : exponent ≤ 971) : Scalable (shortest mantissa exponent) := by
  obtain ⟨hdigits, hexponent, hvalue⟩ :=
    Binary64.shortest_spec hpos hmantissa hleast hmost
  have htaken {significand n : Nat}
      (hle : significand * 10 ^ n ≤ (shortest mantissa exponent).digits) :
      (significand : ℚ) * 10 ^ ((shortest mantissa exponent).exponent + n) ≤
        ((4 * mantissa + 2 : Nat) : ℚ) * 2 ^ (exponent - 2) := by
    refine le_trans ?_ hvalue
    have hleq : (significand : ℚ) * 10 ^ n ≤ (shortest mantissa exponent).digits := by
      exact_mod_cast hle
    rw [zpow_add₀ (by norm_num), zpow_natCast, mul_comm ((10 : ℚ) ^ _), ← mul_assoc]
    exact mul_le_mul_of_nonneg_right hleq (by positivity)
  have hexponent_lt (n : Nat) (hn : 10 ^ n ≤ (shortest mantissa exponent).digits) :
      (shortest mantissa exponent).exponent + n < 309 := by
    have hone := htaken (by rw [Nat.one_mul]; exact hn : 1 * 10 ^ n ≤ _)
    rw [Nat.cast_one, one_mul] at hone
    exact (zpow_lt_zpow_iff_right₀ (by norm_num : (1 : ℚ) < 10)).1
      (hone.trans_lt (high_lt hmantissa hmost))
  refine ⟨hdigits, hexponent, hexponent_lt, fun significand n hsignificand hword hle => ?_⟩
  rcases lt_or_ge ((shortest mantissa exponent).exponent + n) 0 with hneg | hnonneg
  · exact exists_scaled_of_neg significand _ hneg
  · by_cases hlargest : mantissa = 2 * hiddenBit - 1 ∧ exponent = 971
    · -- What rounds to the largest double goes beyond it, so that its own digits have to do.
      rw [hlargest.1, hlargest.2, shortest_largest] at hle ⊢
      exact exists_scaled_of_le_largest hsignificand hle
    · have hlt := hexponent_lt n ((Nat.le_mul_of_pos_left _ hsignificand).trans hle)
      have hlimit := (htaken hle).trans (high_le_productLimit hmantissa hmost hlargest)
      obtain ⟨k, hk⟩ := Int.eq_ofNat_of_zero_le hnonneg
      rw [hk] at hlt hlimit ⊢
      have hmax : maxPower = 308 := rfl
      refine exists_scaled_of_le_limit hword (by omega) ?_
      rw [zpow_natCast] at hlimit
      exact_mod_cast hlimit

/-! ## Doubles -/

/-- The bounds of a finite double. -/
theorem bounds_of_value {x : Binary64} {negative : Bool} {mantissa : Nat} {exponent : Int}
    (h : x.value = .finite negative mantissa exponent) :
    mantissa < 2 * hiddenBit ∧ minExponent ≤ exponent ∧ exponent ≤ 971 := by
  have hfraction := Nat.mod_lt (x.word.toNat % Binary64.signBit) (by decide : hiddenBit > 0)
  have hmagnitude := Nat.mod_lt x.word.toNat (by decide : Binary64.signBit > 0)
  have hfield : x.word.toNat % Binary64.signBit / hiddenBit < 2048 :=
    Nat.div_lt_of_lt_mul hmagnitude
  have hleast : minExponent = -1074 := rfl
  unfold Binary64.value at h
  dsimp only at h
  generalize x.word.toNat % Binary64.signBit / hiddenBit = field at *
  split at h
  next => split at h <;> cases h
  next hinfinite =>
  split at h
  next =>
    cases h
    omega
  next hnormal =>
    cases h
    omega

/-- A number starts with a digit. -/
theorem exists_digit_of_readNumber {negative : Bool} {text rest : Text} {number : Number}
    (h : readNumber negative text = .ok (number, rest)) :
    ∃ c tail, text = c :: tail ∧ c.isDigit = true := by
  cases text with
  | nil => cases h
  | cons c tail =>
    refine ⟨c, tail, rfl, ?_⟩
    by_contra hc
    unfold readNumber at h
    rw [List.takeWhile_cons_of_neg hc] at h
    cases h

theorem readDouble_append {text rest : Text} {number : Number}
    (h : readNumber false (text ++ rest) = .ok (number, rest)) :
    readDouble (text ++ rest) = .ok (number.toDouble, rest) := by
  obtain ⟨c, tail, htext, hc⟩ := exists_digit_of_readNumber h
  rw [htext] at h ⊢
  unfold readDouble
  rw [skipSpace_cons (isSpace_of_isDigit hc)]
  split
  next heq =>
    cases heq
    cases hc
  next =>
    rw [List.head?_cons, Option.any_some, if_pos hc, h]
    rfl

theorem readDouble_minus {text rest : Text} {number : Number}
    (h : readNumber true (text ++ rest) = .ok (number, rest)) :
    readDouble ('-' :: text ++ rest) = .ok (number.toDouble, rest) := by
  unfold readDouble
  rw [List.cons_append, skipSpace_cons rfl]
  show Prod.map Number.toDouble id <$> readNumber true (text ++ rest) = _
  rw [h]
  rfl

/-- A finite double is read back as some double. -/
theorem exists_readDouble_ofDouble {x : Binary64} {negative : Bool} {mantissa : Nat}
    {exponent : Int} (hx : x.value = .finite negative mantissa exponent) :
    ∃ y, ∀ rest, EndsValue rest → readDouble (ofDouble x ++ rest) = .ok (y, rest) := by
  obtain ⟨hmantissa, hleast, hmost⟩ := bounds_of_value hx
  have hmagnitude : ReadsNumber
      (if mantissa = 0 then "0.0" else decimal (shortest mantissa exponent)) := by
    split
    next =>
      exact readsNumber_plain ['0'] ['0'] isWhole_zero (by decide) (isDigit_zeros 1)
        (List.cons_ne_nil _ _)
    next hne =>
      exact readsNumber_decimal (scalable_shortest (Nat.pos_of_ne_zero hne) hmantissa hleast hmost)
  obtain ⟨number, hread⟩ := hmagnitude negative
  refine ⟨number.toDouble, fun rest hrest => ?_⟩
  unfold ofDouble
  rw [hx]
  dsimp only
  cases negative with
  | false => exact readDouble_append (hread rest hrest)
  | true => exact readDouble_minus (hread rest hrest)

/-- What is not finite is read as a word where a number is wanted. -/
theorem readDouble_ofDouble_error {x : Binary64}
    (hx : ∀ negative mantissa exponent, x.value ≠ .finite negative mantissa exponent) (rest : Text) :
    readDouble (ofDouble x ++ rest) = .error .mismatch := by
  have hnull : ofDouble x = "null".toList := by
    unfold ofDouble
    cases hvalue : x.value with
    | nan => rfl
    | infinite => rfl
    | finite negative mantissa exponent => exact absurd hvalue (hx _ _ _)
  rw [hnull]
  rfl

end SourceGrade.Json
