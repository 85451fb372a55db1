import SourceGrade.Proofs.Binary64.Decimal
import SourceGrade.Proofs.Binary64.Roundoff
import SourceGrade.Proofs.Json.Double

/-!
# How accurately doubles are read

A printed double is read with all of its digits as one integer and one power of ten, each rounded to a
double before they are multiplied or divided. What is read is no more doubles away from what was
printed than these two were rounded (`exists_readDouble_near`).
-/

namespace SourceGrade

open Binary64 (Decimal Near hiddenBit infinityWord magnitude nearestWord ofRatio_false shortest)

namespace Json

variable {whole fraction : Text} {d : Decimal}

/-! ## Digits as they are written -/

/-- A text that is read as a significand with a power of ten, whatever follows it. -/
def ReadsAs (text : Text) (d : Decimal) : Prop :=
  ∀ negative rest, EndsValue rest → readNumber negative (text ++ rest) =
    (fun x : Binary64 => (.double (if negative then x.neg else x), rest)) <$>
      scaled d.digits d.exponent

theorem readsAs_point (hwhole : IsWhole whole) (hfraction : ∀ c ∈ fraction, c.isDigit = true)
    (hne : fraction ≠ []) (hfits : Nat.ofDigitChars 10 (whole ++ fraction) 0 < UInt64.size) :
    ReadsAs (whole ++ '.' :: fraction)
      ⟨Nat.ofDigitChars 10 (whole ++ fraction) 0, -fraction.length⟩ := by
  intro negative rest hrest
  rw [Nat.ofDigitChars_append] at hfits ⊢
  have hlt := (le_ofDigitChars fraction _).trans_lt hfits
  rw [List.append_assoc, List.cons_append, readNumber_fraction hwhole hlt,
    readFraction_append _ _ hfraction hne hrest.noDigit, absorb_of_lt hfits,
    readTail_of_endsValue _ _ hrest, List.length_nil, Nat.sub_zero, zero_sub]
  cases scaled (Nat.ofDigitChars 10 fraction (Nat.ofDigitChars 10 whole 0)) (-fraction.length) <;> rfl

theorem readsAs_mark (hwhole : IsWhole whole) (hfits : Nat.ofDigitChars 10 whole 0 < UInt64.size)
    {leading : Int} (hleading : leading.natAbs < UInt32.size / 2) :
    ReadsAs (whole ++ mark leading) ⟨Nat.ofDigitChars 10 whole 0, leading⟩ := by
  intro negative rest hrest
  obtain ⟨tail, hmark⟩ := exists_mark_eq leading
  rw [List.append_assoc, hmark, List.cons_append, readNumber_exponent hwhole hfits,
    ← List.cons_append, ← hmark, readTail_mark _ _ hleading hrest, zero_add]
  cases scaled (Nat.ofDigitChars 10 whole 0) leading <;> rfl

theorem readsAs_point_mark (hwhole : IsWhole whole) (hfraction : ∀ c ∈ fraction, c.isDigit = true)
    (hne : fraction ≠ []) (hfits : Nat.ofDigitChars 10 (whole ++ fraction) 0 < UInt64.size)
    {leading : Int} (hleading : leading.natAbs < UInt32.size / 2) :
    ReadsAs (whole ++ '.' :: fraction ++ mark leading)
      ⟨Nat.ofDigitChars 10 (whole ++ fraction) 0, leading - fraction.length⟩ := by
  intro negative rest hrest
  rw [Nat.ofDigitChars_append] at hfits ⊢
  have hlt := (le_ofDigitChars fraction _).trans_lt hfits
  have hmark : NoDigit (mark leading ++ rest) := by
    obtain ⟨tail, hmark⟩ := exists_mark_eq leading
    rw [hmark]
    exact noDigit_cons rfl _
  rw [List.append_assoc, List.append_assoc, List.cons_append, readNumber_fraction hwhole hlt,
    readFraction_append _ _ hfraction hne hmark, absorb_of_lt hfits, readTail_mark _ _ hleading hrest,
    List.length_nil, Nat.sub_zero, zero_sub, neg_add_eq_sub]
  cases scaled (Nat.ofDigitChars 10 fraction (Nat.ofDigitChars 10 whole 0))
    (leading - fraction.length) <;> rfl

/-- A decimal as its digits are written: a whole number in plain notation has a zero behind its
point. -/
def written (d : Decimal) : Decimal :=
  if 0 ≤ d.exponent ∧ d.exponent + (Text.ofNat d.digits).length - 1 < 16 then
    ⟨d.digits * 10 ^ (d.exponent.toNat + 1), -1⟩
  else d

theorem magnitude_written (d : Decimal) : (written d).magnitude = d.magnitude := by
  unfold written
  split
  next h =>
    obtain ⟨k, hk⟩ := Int.eq_ofNat_of_zero_le h.1
    unfold Decimal.magnitude
    rw [hk, Int.toNat_natCast, zpow_natCast, zpow_neg_one, Nat.cast_mul, Nat.cast_pow, pow_succ,
      Nat.cast_ofNat]
    field_simp
  next => rfl

/-- A whole number in plain notation has at most seventeen digits with the zero behind its point. -/
theorem digits_written_lt (hfits : d.digits < UInt64.size) : (written d).digits < UInt64.size := by
  unfold written
  split
  next h =>
    have hlength : 0 < (Text.ofNat d.digits).length :=
      List.length_pos_iff.2 (Text.ofNat_ne_nil d.digits)
    have hdigits := (Text.length_ofNat_le_iff hlength).1 (Nat.le_refl _)
    have hsize : 10 ^ 17 < UInt64.size := by decide
    calc d.digits * 10 ^ (d.exponent.toNat + 1)
      _ ≤ 10 ^ (Text.ofNat d.digits).length * 10 ^ (d.exponent.toNat + 1) :=
        Nat.mul_le_mul_right _ hdigits.le
      _ = 10 ^ ((Text.ofNat d.digits).length + (d.exponent.toNat + 1)) := (Nat.pow_add ..).symm
      _ ≤ 10 ^ 17 := Nat.pow_le_pow_right (by decide) (by omega)
      _ < UInt64.size := hsize
  next => exact hfits

theorem readsAs_plain_whole (hpos : 0 < d.digits) (hfits : d.digits < UInt64.size)
    (hexponent : 0 ≤ d.exponent) (hleading : d.exponent + (Text.ofNat d.digits).length - 1 < 16) :
    ReadsAs (plain (Text.ofNat d.digits) d.exponent) (written d) := by
  have hlt := digits_written_lt hfits
  have hwritten : written d = ⟨d.digits * 10 ^ (d.exponent.toNat + 1), -1⟩ :=
    if_pos ⟨hexponent, hleading⟩
  have hvalue : Nat.ofDigitChars 10 (Text.ofNat d.digits ++ zeros d.exponent.toNat ++ zeros 1) 0 =
      d.digits * 10 ^ (d.exponent.toNat + 1) := by
    rw [Nat.ofDigitChars_append, Nat.ofDigitChars_append, Text.ofDigitChars_ofNat, zeros, zeros,
      Nat.ofDigitChars_replicate_zero, Nat.ofDigitChars_replicate_zero]
    ring
  rw [hwritten] at hlt ⊢
  have hread := readsAs_point (isWhole_append hpos (isDigit_zeros _)) (isDigit_zeros 1)
    (List.cons_ne_nil _ _) (by rw [hvalue]; exact hlt)
  have hplain : plain (Text.ofNat d.digits) d.exponent =
      Text.ofNat d.digits ++ zeros d.exponent.toNat ++ '.' :: zeros 1 := by
    rw [plain, if_pos hexponent]
    rfl
  rw [hvalue] at hread
  rw [hplain]
  exact hread

theorem readsAs_plain_point (hpos : 0 < d.digits) (hfits : d.digits < UInt64.size)
    (hexponent : d.exponent < 0) : ReadsAs (plain (Text.ofNat d.digits) d.exponent) d := by
  obtain ⟨digits, exponent⟩ := d
  dsimp only at *
  have hvalue := Text.ofDigitChars_ofNat digits
  unfold plain
  dsimp only
  rw [if_neg (not_le.2 hexponent)]
  split
  next hpoint =>
    -- The point only parts the digits.
    obtain ⟨k, hk⟩ := Int.eq_ofNat_of_zero_le hpoint.le
    rw [hk, Int.toNat_natCast]
    have hparts := List.take_append_drop k (Text.ofNat digits)
    have hdrop : ((List.drop k (Text.ofNat digits)).length : Int) = -exponent := by
      rw [List.length_drop]
      omega
    have hne : List.drop k (Text.ofNat digits) ≠ [] := List.ne_nil_of_length_pos (by omega)
    have hread := readsAs_point (isWhole_take hpos (by omega : 0 < k))
      (fun c hc => isDigit_ofNat digits c (List.mem_of_mem_drop hc)) hne
      (by rw [hparts, hvalue]; exact hfits)
    rw [hparts, hvalue, hdrop, neg_neg] at hread
    rw [List.append_assoc]
    exact hread
  next hpoint =>
    -- The zeros in front of the digits are worth nothing.
    have hzeros : Nat.ofDigitChars 10
        (['0'] ++ (zeros (-((Text.ofNat digits).length + exponent)).toNat ++ Text.ofNat digits)) 0 =
        digits := by
      rw [Nat.ofDigitChars_append, Nat.ofDigitChars_append, zeros, Nat.ofDigitChars_replicate_zero]
      exact hvalue
    have hlength : (zeros (-((Text.ofNat digits).length + exponent)).toNat ++
        Text.ofNat digits).length = -exponent := by
      rw [List.length_append, zeros, List.length_replicate]
      omega
    have hread := readsAs_point isWhole_zero
      (List.forall_mem_append.2 ⟨isDigit_zeros _, isDigit_ofNat digits⟩)
      (List.append_ne_nil_of_right_ne_nil _ (Text.ofNat_ne_nil digits))
      (by rw [hzeros]; exact hfits)
    rw [hzeros, hlength, neg_neg] at hread
    rw [List.append_assoc]
    exact hread

theorem readsAs_scientific (hd : Scalable d) (hfits : d.digits < UInt64.size) :
    ReadsAs (scientific (Text.ofNat d.digits)
      (d.exponent + (Text.ofNat d.digits).length - 1)) d := by
  have hleading := hd.natAbs_leading_lt
  have hwhole := isWhole_take hd.digits_pos Nat.one_pos
  have hvalue := Text.ofDigitChars_ofNat d.digits
  have hparts := List.take_append_drop 1 (Text.ofNat d.digits)
  have hlength : 0 < (Text.ofNat d.digits).length :=
    List.length_pos_iff.2 (Text.ofNat_ne_nil d.digits)
  have hdrop := List.length_drop (i := 1) (l := Text.ofNat d.digits)
  have hisDigit : ∀ c ∈ (Text.ofNat d.digits).drop 1, c.isDigit = true :=
    fun c hc => isDigit_ofNat d.digits c (List.mem_of_mem_drop hc)
  rw [scientific_eq]
  rw [← hparts] at hvalue
  generalize (Text.ofNat d.digits).take 1 = whole at *
  generalize (Text.ofNat d.digits).drop 1 = fraction at *
  rw [← hvalue] at hfits
  split
  next hnone =>
    -- A single digit has no point behind it.
    rw [hnone, List.length_nil] at hdrop
    rw [hnone, List.append_nil] at hvalue hfits
    have hread := readsAs_mark hwhole hfits hleading
    have hexponent : d.exponent + (Text.ofNat d.digits).length - 1 = d.exponent := by omega
    rw [List.append_nil, hexponent]
    rw [hvalue, hexponent] at hread
    exact hread
  next hsome =>
    have hread := readsAs_point_mark hwhole hisDigit hsome hfits hleading
    have hexponent : d.exponent + (Text.ofNat d.digits).length - 1 - fraction.length = d.exponent := by
      omega
    rw [hvalue, hexponent] at hread
    exact hread

/-- A decimal is read as it is written if its digits fit a word. -/
theorem readsAs_decimal (hd : Scalable d) (hfits : d.digits < UInt64.size) :
    ReadsAs (decimal d) (written d) := by
  have hlength : 0 < (Text.ofNat d.digits).length :=
    List.length_pos_iff.2 (Text.ofNat_ne_nil d.digits)
  unfold decimal
  dsimp only
  split
  next hplain =>
    rcases lt_or_ge d.exponent 0 with hneg | hnonneg
    · have hwritten : written d = d := if_neg fun h => absurd h.1 (not_le.2 hneg)
      rw [hwritten]
      exact readsAs_plain_point hd.digits_pos hfits hneg
    · exact readsAs_plain_whole hd.digits_pos hfits hnonneg hplain.2
  next hplain =>
    have hwritten : written d = d := if_neg fun h => hplain ⟨by omega, h.2⟩
    rw [hwritten]
    exact readsAs_scientific hd hfits

/-! ## Roundings -/

/-- How often a reader rounds before it multiplies or divides: the digits, unless a mantissa has room
for them, and the power of ten, unless it is one of the first ones, which are doubles. -/
def roundings (d : Decimal) : Nat :=
  (if d.digits < 2 * hiddenBit then 0 else 1) + if d.exponent.natAbs ≤ 22 then 0 else 1

theorem roundings_le (d : Decimal) : roundings d ≤ 2 := by
  unfold roundings
  split <;> split <;> decide

theorem nearestWord_lt_of_le {n : Nat} (h : n ≤ 10 ^ maxPower) : nearestWord n 1 < infinityWord := by
  have hmax : nearestWord (10 ^ maxPower) 1 < infinityWord := by decide +kernel
  exact (Binary64.nearestWord_ofNat_mono h).trans_lt hmax

theorem near_digits (hfits : d.digits < UInt64.size) :
    nearestWord d.digits 1 < infinityWord ∧
      Near (if d.digits < 2 * hiddenBit then 0 else 1) (magnitude (nearestWord d.digits 1)) d.digits := by
  have hsize : UInt64.size ≤ 10 ^ 20 := by decide
  have hpow : 10 ^ 20 ≤ 10 ^ maxPower := Nat.pow_le_pow_right (by decide) (by decide)
  have hword := nearestWord_lt_of_le (hfits.le.trans (hsize.trans hpow))
  have hbit : 0 < 2 * hiddenBit := by decide
  exact ⟨hword, Binary64.near_magnitude_ofNat Binary64.magnitude_nearestWord_of_lt
    (fun hlarge => hbit.trans_le (not_lt.1 hlarge)) hword⟩

theorem near_pow_ten {k : Nat} (hk : k ≤ maxPower) :
    nearestWord (10 ^ k) 1 < infinityWord ∧
      Near (if k ≤ 22 then 0 else 1) (magnitude (nearestWord (10 ^ k) 1)) (10 ^ k : Nat) := by
  have hword := nearestWord_lt_of_le (Nat.pow_le_pow_right (by decide : 0 < 10) hk)
  exact ⟨hword, Binary64.near_magnitude_ofNat Binary64.magnitude_nearestWord_pow_ten
    (fun _ => Nat.pow_pos (by decide)) hword⟩

/-- One step is enough for powers of ten that are doubles. -/
theorem scaled_eq {significand : Nat} {exponent : Int} (h : exponent.natAbs ≤ maxPower) :
    scaled significand exponent =
      if exponent < 0 then .ok ((Binary64.ofNat significand).div (.ofNat (10 ^ exponent.natAbs)))
      else if ((Binary64.ofNat significand).mul (.ofNat (10 ^ exponent.natAbs))).isInfinite then
        .error .malformed
      else .ok ((Binary64.ofNat significand).mul (.ofNat (10 ^ exponent.natAbs))) := by
  unfold scaled
  rw [scale, if_pos h]
  rfl

/-- A reader computes one ratio, which is as near to the decimal as it has rounded before. -/
theorem exists_scaled_eq (hdigits : d.digits < UInt64.size)
    (hexponent : d.exponent.natAbs ≤ maxPower) :
    ∃ num den : Nat, 0 < den ∧ Near (roundings d) (num / den) d.magnitude ∧
      (nearestWord num den < infinityWord →
        scaled d.digits d.exponent = .ok ⟨.ofNat (nearestWord num den)⟩) := by
  obtain ⟨hword, hnear⟩ := near_digits hdigits
  obtain ⟨hword', hnear'⟩ := near_pow_ten hexponent
  have hmagnitude := Binary64.magnitude_nonneg (nearestWord d.digits 1)
  have hmagnitude' : 0 < magnitude (nearestWord (10 ^ d.exponent.natAbs) 1) :=
    Binary64.magnitude_pos ((Nat.zero_le _).trans_lt
      (Binary64.hiddenBit_lt_nearestWord_ofNat (Nat.pow_pos (by decide))))
  have hpower : (10 : ℚ) ^ d.exponent.natAbs = (10 ^ d.exponent.natAbs : Nat) := by norm_num
  have hpowerPos : (0 : ℚ) < (10 ^ d.exponent.natAbs : Nat) := by positivity
  rw [scaled_eq hexponent, Binary64.ofNat, Binary64.ofNat, ofRatio_false, ofRatio_false]
  rcases lt_or_ge d.exponent 0 with hneg | hnonneg
  · obtain ⟨num, den, hden, hdiv, hquotient⟩ := Binary64.exists_div_eq hword hword' hmagnitude'
    have hscale : (10 : ℚ) ^ d.exponent = ((10 ^ d.exponent.natAbs : Nat) : ℚ)⁻¹ := by
      rw [← hpower, ← zpow_natCast, ← zpow_neg, Int.ofNat_natAbs_of_nonpos hneg.le, neg_neg]
    refine ⟨num, den, hden, ?_, fun _ => ?_⟩
    · rw [hquotient, Decimal.magnitude, hscale, div_eq_mul_inv]
      exact hnear.mul (hnear'.inv hmagnitude' hpowerPos) hmagnitude (Nat.cast_nonneg _)
        (by positivity) (by positivity)
    · rw [if_pos hneg, hdiv, ofRatio_false]
  · obtain ⟨num, den, hden, hmul, hproduct⟩ := Binary64.exists_mul_eq hword hword'
    have hscale : (10 : ℚ) ^ d.exponent = (10 ^ d.exponent.natAbs : Nat) := by
      rw [← hpower, ← zpow_natCast, Int.natAbs_of_nonneg hnonneg]
    refine ⟨num, den, hden, ?_, fun hfinite => ?_⟩
    · rw [hproduct, Decimal.magnitude, hscale]
      exact hnear.mul hnear' hmagnitude (Nat.cast_nonneg _) hmagnitude'.le hpowerPos.le
    · rw [if_neg (not_lt.2 hnonneg), hmul, Binary64.isInfinite_ofRatio_iff.2 hfinite,
        if_neg Bool.false_ne_true, ofRatio_false]

/-- A reader ends as many words away from the nearest one as it has rounded before. -/
theorem exists_scaled_near (hdigits : d.digits < UInt64.size)
    (hexponent : d.exponent.natAbs ≤ maxPower)
    (hfinite : d.nearestWord + roundings d < infinityWord) :
    ∃ word < infinityWord, scaled d.digits d.exponent = .ok ⟨.ofNat word⟩ ∧
      word ≤ d.nearestWord + roundings d ∧ d.nearestWord ≤ word + roundings d := by
  obtain ⟨num, den, hden, hnear, hscaled⟩ := exists_scaled_eq hdigits hexponent
  rw [← d.ratio_eq_magnitude] at hnear
  have hpower := Binary64.powerOf_pos (by decide : 0 < 10) (-d.exponent)
  have hbelow := Binary64.nearestWord_le_add hden hpower hnear
  have habove := Binary64.nearestWord_le_add hpower hden hnear.symm
  have hword := hbelow.trans_lt hfinite
  exact ⟨nearestWord num den, hword, hscaled hword, hbelow, habove⟩

/-! ## Doubles -/

/-- The decimal that the digits of a printed double are. -/
def printed (x : Binary64) : Decimal :=
  match x.value with
  | .finite _ mantissa exponent =>
    if mantissa = 0 then ⟨0, -1⟩ else written (shortest mantissa exponent)
  | .nan | .infinite _ => ⟨0, 0⟩

section

variable {x : Binary64} {negative : Bool} {mantissa : Nat} {exponent : Int}

theorem printed_eq (hx : x.value = .finite negative mantissa exponent) (hpos : 0 < mantissa) :
    printed x = written (shortest mantissa exponent) := by
  rw [printed, hx]
  exact if_neg hpos.ne'

theorem printed_zero (hx : x.value = .finite negative 0 exponent) : printed x = ⟨0, -1⟩ := by
  rw [printed, hx]
  rfl

/-- Doubles that are no extremely large or small ones have powers of ten that are doubles. -/
theorem natAbs_exponent_printed_le (hx : x.value = .finite negative mantissa exponent)
    (hexponent : 0 < mantissa → -900 ≤ exponent ∧ exponent ≤ 900) :
    (printed x).exponent.natAbs ≤ maxPower := by
  obtain ⟨hmantissa, hlow, hhigh⟩ := bounds_of_value hx
  have hmax : maxPower = 308 := rfl
  rcases Nat.eq_zero_or_pos mantissa with rfl | hpos
  · rw [printed_zero hx]
    decide
  · have hlog := Binary64.log2_lt hpos hmantissa
    obtain ⟨hleast, hmost⟩ := hexponent hpos
    obtain ⟨n, p, hshortest, -, hlast, hfirst, -⟩ :=
      Binary64.exists_shortest_eq hpos hmantissa hlow hhigh
    unfold Binary64.powerAbove at hlast hfirst
    rw [printed_eq hx hpos, hshortest]
    unfold written
    split <;> dsimp only <;> omega

theorem digits_printed_lt (hx : x.value = .finite negative mantissa exponent) :
    (printed x).digits < UInt64.size := by
  obtain ⟨hmantissa, hleast, hmost⟩ := bounds_of_value hx
  rcases Nat.eq_zero_or_pos mantissa with rfl | hpos
  · rw [printed_zero hx]
    decide
  · rw [printed_eq hx hpos]
    exact digits_written_lt (Binary64.digits_shortest_lt hpos hmantissa hleast hmost)

variable (hx : x.value = .finite false mantissa exponent)

include hx

/-- What is printed of a double is read as its decimal. -/
theorem readsAs_ofDouble : ReadsAs (ofDouble x) (printed x) := by
  obtain ⟨hmantissa, hleast, hmost⟩ := bounds_of_value hx
  rcases Nat.eq_zero_or_pos mantissa with rfl | hpos
  · have htext : ofDouble x = ['0'] ++ '.' :: zeros 1 := by
      rw [ofDouble, hx]
      rfl
    rw [htext, printed_zero hx]
    exact readsAs_point isWhole_zero (isDigit_zeros 1) (List.cons_ne_nil _ _) (by decide)
  · have htext : ofDouble x = decimal (shortest mantissa exponent) := by
      rw [ofDouble, hx]
      exact if_neg hpos.ne'
    rw [htext, printed_eq hx hpos]
    exact readsAs_decimal (scalable_shortest hpos hmantissa hleast hmost)
      (Binary64.digits_shortest_lt hpos hmantissa hleast hmost)

/-- The double nearest to what is printed of a double is that double. -/
theorem nearestWord_printed : (printed x).nearestWord = x.word.toNat := by
  rcases Nat.eq_zero_or_pos mantissa with rfl | hpos
  · obtain ⟨-, -, field, hsplits, -⟩ := Binary64.exists_splits_of_value hx
    have heq := hsplits.word_eq
    have hzero : field = 0 := hsplits.hidden.resolve_left (by decide)
    rw [hzero, Nat.zero_mul] at heq
    rw [printed_zero hx, heq]
    rfl
  · rw [printed_eq hx hpos, Decimal.nearestWord_congr (magnitude_written _)]
    exact Binary64.nearestWord_shortest hx hpos

/-- A printed double is read as one that is no further away than its digits have to be rounded. -/
theorem exists_readDouble_near (hexponent : (printed x).exponent.natAbs ≤ maxPower)
    (hfinite : x.word.toNat + roundings (printed x) < infinityWord) :
    ∃ y : Binary64, (∀ rest, EndsValue rest → readDouble (ofDouble x ++ rest) = .ok (y, rest)) ∧
      y.word.toNat ≤ x.word.toNat + roundings (printed x) ∧
      x.word.toNat ≤ y.word.toNat + roundings (printed x) := by
  rw [← nearestWord_printed hx] at hfinite ⊢
  obtain ⟨word, hword, hscaled, hclose⟩ :=
    exists_scaled_near (digits_printed_lt hx) hexponent hfinite
  have hsize : infinityWord < UInt64.size := by decide
  rw [← UInt64.toNat_ofNat_of_lt' (hword.trans hsize)] at hclose
  refine ⟨⟨.ofNat word⟩, fun rest hrest => ?_, hclose⟩
  have hread := readsAs_ofDouble hx false rest hrest
  rw [hscaled] at hread
  exact readDouble_append hread

end

end Json

end SourceGrade
