import SourceGrade.Proofs.Binary64.Representable

/-!
# Signs of doubles

A quotient of two doubles without a sign has none, whether they are finite or not, and its integer part
is no negative word (`truncate_div_nonneg`).
-/

namespace SourceGrade.Binary64

variable {x y : Binary64} {word : Nat}

def Value.isNegative : Value → Bool
  | .nan => false
  | .infinite negative => negative
  | .finite negative _ _ => negative

/-- A double without a minus sign: zero or a positive number, infinity, or no number. -/
def Unsigned (x : Binary64) : Prop := x.value.isNegative = false

/-- A double of at least zero, which may be the zero with a minus sign. -/
def IsNonneg (x : Binary64) : Prop := (ofNat 0).lt x = true ∨ x.isZero = true

/-! ## Unsigned doubles -/

theorem unsigned_of_lt (hword : word < signBit) : Unsigned ⟨.ofNat word⟩ := by
  have hsize : signBit < UInt64.size := by decide
  have hnegative : decide (signBit ≤ word) = false := decide_eq_false (Nat.not_le.2 hword)
  unfold Unsigned value
  rw [UInt64.toNat_ofNat_of_lt' (hword.trans hsize)]
  dsimp only
  rw [hnegative]
  split
  · split <;> rfl
  · split <;> rfl

theorem unsigned_ofRatio (num den : Nat) : (ofRatio false num den).Unsigned := by
  have hinfinity : infinityWord < signBit := by decide
  rw [ofRatio_false]
  exact unsigned_of_lt ((nearestWord_le num den).trans_lt hinfinity)

theorem unsigned_abs (x : Binary64) : x.abs.Unsigned :=
  unsigned_of_lt (Nat.mod_lt _ (by decide))

theorem unsigned_nan : nan.Unsigned := by
  unfold Unsigned
  decide

theorem unsigned_infinity : (infinity false).Unsigned := by
  unfold Unsigned
  decide

theorem Unsigned.value_eq (h : x.Unsigned) : x.value = .nan ∨ x.value = .infinite false ∨
    ∃ mantissa exponent, x.value = .finite false mantissa exponent := by
  unfold Unsigned at h
  cases hvalue : x.value with
  | nan => exact .inl rfl
  | infinite negative =>
    obtain rfl : negative = false := by rwa [hvalue] at h
    exact .inr (.inl rfl)
  | finite negative mantissa exponent =>
    obtain rfl : negative = false := by rwa [hvalue] at h
    exact .inr (.inr ⟨mantissa, exponent, rfl⟩)

theorem Unsigned.div (hx : x.Unsigned) (hy : y.Unsigned) : (x.div y).Unsigned := by
  unfold Binary64.div
  rcases hx.value_eq with hvx | hvx | ⟨m, e, hvx⟩ <;> rw [hvx]
  · exact unsigned_nan
  · rcases hy.value_eq with hvy | hvy | ⟨n, f, hvy⟩ <;> rw [hvy]
    · exact unsigned_nan
    · exact unsigned_nan
    · exact unsigned_infinity
  · rcases hy.value_eq with hvy | hvy | ⟨n, f, hvy⟩ <;> rw [hvy]
    · exact unsigned_nan
    · exact unsigned_ofRatio 0 1
    · dsimp only
      split
      · split
        · exact unsigned_nan
        · exact unsigned_infinity
      · exact unsigned_ofRatio _ _

theorem Unsigned.truncate_nonneg (h : x.Unsigned) : 0 ≤ x.truncate := by
  have hsign : signBit = 2 ^ 63 := rfl
  unfold truncate
  rcases h.value_eq with hvalue | hvalue | ⟨m, e, hvalue⟩ <;> rw [hvalue]
  · decide
  · have hquotient : 0 ≤ signed false ((ratio m e).1 / (ratio m e).2) := Int.natCast_nonneg _
    show 0 ≤ saturate (signed false ((ratio m e).1 / (ratio m e).2))
    unfold saturate
    omega

/-! ## Doubles of at least zero -/

theorem truncate_nan : nan.truncate = 0 := by
  have hvalue : nan.value = .nan := by decide
  rw [truncate, hvalue]

theorem truncate_ofRatio_zero (negative : Bool) (den : Nat) :
    (ofRatio negative 0 den).truncate = 0 := by
  have hword : nearestWord 0 den = 0 := if_pos rfl
  have hvalue : (ofRatio negative 0 den).value = .finite negative 0 minExponent := by
    rw [ofRatio, hword]
    cases negative <;> decide
  have hsigned : signed negative 0 = 0 := by cases negative <;> rfl
  rw [truncate, hvalue]
  dsimp only [ratio]
  rw [Nat.zero_mul, Nat.zero_div, hsigned]
  rfl

/-- A zero has a quotient of zero or none, whatever its sign. -/
theorem truncate_div_of_isZero (hx : x.isZero = true) (y : Binary64) : (x.div y).truncate = 0 := by
  unfold isZero at hx
  unfold div
  split at hx
  next s e hvx =>
    rw [hvx]
    cases hvy : y.value with
    | nan => exact truncate_nan
    | infinite t => exact truncate_ofRatio_zero _ 1
    | finite t n f =>
      dsimp only
      split
      · exact truncate_nan
      · dsimp only [ratio]
        rw [Nat.zero_mul]
        exact truncate_ofRatio_zero _ _
  next => cases hx

theorem signed_true_le (n : Nat) : signed true n ≤ 0 := by
  unfold signed
  exact Int.neg_nonpos_of_nonneg (Int.natCast_nonneg n)

theorem unsigned_of_pos (hx : (ofNat 0).lt x = true) : x.Unsigned := by
  have hzero : (ofNat 0).value = .finite false 0 minExponent := by decide
  unfold Unsigned
  rw [lt, hzero] at hx
  cases hvx : x.value with
  | nan => rfl
  | infinite s =>
    rw [hvx] at hx
    exact Bool.eq_false_of_not_eq_true' hx
  | finite s n f =>
    rw [hvx] at hx
    cases s with
    | false => rfl
    | true =>
      have hlt := of_decide_eq_true hx
      rw [Nat.zero_mul] at hlt
      exact absurd hlt (signed_true_le _).not_gt

theorem truncate_div_nonneg (hx : x.IsNonneg) (hy : y.Unsigned) : 0 ≤ (x.div y).truncate := by
  rcases hx with hpos | hzero
  · exact ((unsigned_of_pos hpos).div hy).truncate_nonneg
  · exact (truncate_div_of_isZero hzero y).ge

end SourceGrade.Binary64
