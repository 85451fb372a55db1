import SourceGrade.Json.Number
import SourceGrade.Proofs.Json.Digits

/-!
# Decimals read back

A decimal that is printed plainly or with an exponent is a number for the reader, which brings as many
of its digits as fit a word to the right power of ten. It only remains to see that their product is a
double.
-/

namespace SourceGrade.Json

variable {digits whole fraction rest : Text} {c : Char} {negative : Bool} {n : Nat}

/-! ## Powers of ten -/

/-- Negative powers only make a double smaller. -/
theorem exists_scale_of_neg (x : Binary64) {exponent : Int} (h : exponent < 0) (steps : Nat) :
    ∃ y, scale x exponent steps = .ok y := by
  induction steps generalizing x exponent with
  | zero => exact ⟨x, rfl⟩
  | succ steps ih =>
    rw [scale]
    split
    next => exact ⟨_, rfl⟩
    next hlarge =>
    split
    next => exact ⟨x, rfl⟩
    next =>
    rw [if_neg (by omega)]
    have hmax : maxPower = 308 := rfl
    exact ih _ (by omega)

theorem exists_scaled_of_neg (significand : Nat) (exponent : Int) (h : exponent < 0) :
    ∃ y, scaled significand exponent = .ok y :=
  exists_scale_of_neg _ h _

/-- A decimal that the reader can bring to a double, whatever number of its digits it takes. -/
structure Scalable (d : Binary64.Decimal) : Prop where
  digits_pos : 0 < d.digits
  le_exponent : -1000 ≤ d.exponent
  exponent_lt : ∀ n : Nat, 10 ^ n ≤ d.digits → d.exponent + n < 309
  scaled : ∀ significand n : Nat, 0 < significand → significand < UInt64.size →
    significand * 10 ^ n ≤ d.digits → ∃ y, scaled significand (d.exponent + n) = .ok y

/-! ## The parts of a number -/

/-- Digits in front of a point or an exponent, without a leading zero. -/
structure IsWhole (digits : Text) : Prop where
  isDigit : ∀ c ∈ digits, c.isDigit = true
  ne_nil : digits ≠ []
  leading : ¬(digits.head? = some '0' ∧ 1 < digits.length)

theorem isDigit_zeros (k : Nat) : ∀ c ∈ zeros k, c.isDigit = true := by
  intro c hc
  rw [List.eq_of_mem_replicate hc]
  rfl

theorem isWhole_zero : IsWhole ['0'] := ⟨isDigit_zeros 1, by decide, by decide⟩

theorem isWhole_append (hpos : 0 < n) (hdigits : ∀ c ∈ digits, c.isDigit = true) :
    IsWhole (Text.ofNat n ++ digits) := by
  obtain ⟨c, tail, hn, hc⟩ := exists_ofNat_eq n
  refine ⟨?_, ?_, ?_⟩
  · exact List.forall_mem_append.2 ⟨isDigit_ofNat n, hdigits⟩
  · rw [hn]
    exact List.cons_ne_nil _ _
  · rintro ⟨hhead, -⟩
    have hne := Text.head?_ofNat_ne hpos
    rw [hn] at hne hhead
    exact hne hhead

theorem isWhole_take (hpos : 0 < n) {k : Nat} (hk : 0 < k) : IsWhole ((Text.ofNat n).take k) := by
  obtain ⟨c, tail, hn, hc⟩ := exists_ofNat_eq n
  obtain ⟨k, rfl⟩ : ∃ m, k = m + 1 := ⟨k - 1, by omega⟩
  refine ⟨fun c hmem => isDigit_ofNat n c (List.mem_of_mem_take hmem), ?_, ?_⟩
  · rw [hn]
    exact List.cons_ne_nil _ _
  · rintro ⟨hhead, -⟩
    have hne := Text.head?_ofNat_ne hpos
    rw [hn] at hne hhead
    exact hne hhead

theorem readFraction_append (significand : Nat) (exponent : Int)
    (hfraction : ∀ c ∈ fraction, c.isDigit = true) (hne : fraction ≠ []) (hrest : NoDigit rest) :
    readFraction significand exponent (fraction ++ rest) =
      readTail (absorb significand fraction).1
        (exponent - (fraction.length - (absorb significand fraction).2.length : Nat)) rest := by
  have hempty : fraction.isEmpty = false := List.isEmpty_eq_false_iff.2 hne
  unfold readFraction
  rw [takeWhile_isDigit_append hfraction hrest, dropWhile_isDigit_append hfraction hrest]
  dsimp only
  rw [hempty, if_neg Bool.false_ne_true]

/-- Behind a whole part that fits a word comes a fraction, with its digits as negative powers. -/
theorem readNumber_fraction (hwhole : IsWhole whole)
    (hfits : Nat.ofDigitChars 10 whole 0 < UInt64.size) (fraction : Text) :
    readNumber negative (whole ++ '.' :: fraction) =
      Prod.map (fun x => .double (if negative then x.neg else x)) id <$>
        readFraction (Nat.ofDigitChars 10 whole 0) 0 fraction := by
  have hpoint : NoDigit ('.' :: fraction) := noDigit_cons rfl _
  have hempty : whole.isEmpty = false := List.isEmpty_eq_false_iff.2 hwhole.ne_nil
  unfold readNumber
  rw [takeWhile_isDigit_append hwhole.isDigit hpoint, dropWhile_isDigit_append hwhole.isDigit hpoint]
  dsimp only
  rw [hempty, if_neg Bool.false_ne_true, if_neg hwhole.leading, absorb_of_lt hfits]
  rfl

/-- Behind a whole part that fits a word comes an exponent. -/
theorem readNumber_exponent (hwhole : IsWhole whole)
    (hfits : Nat.ofDigitChars 10 whole 0 < UInt64.size) (rest : Text) :
    readNumber negative (whole ++ 'e' :: rest) =
      Prod.map (fun x => .double (if negative then x.neg else x)) id <$>
        readTail (Nat.ofDigitChars 10 whole 0) 0 ('e' :: rest) := by
  have hmark : NoDigit ('e' :: rest) := noDigit_cons rfl _
  have hempty : whole.isEmpty = false := List.isEmpty_eq_false_iff.2 hwhole.ne_nil
  unfold readNumber
  rw [takeWhile_isDigit_append hwhole.isDigit hmark, dropWhile_isDigit_append hwhole.isDigit hmark]
  dsimp only
  rw [hempty, if_neg Bool.false_ne_true, if_neg hwhole.leading, absorb_of_lt hfits]
  rfl

theorem readTail_of_endsValue (significand : Nat) (exponent : Int) (hrest : EndsValue rest) :
    readTail significand exponent rest = (·, rest) <$> scaled significand exponent := by
  obtain ⟨c, tail, rfl, rfl | rfl⟩ := hrest <;> rfl

/-- An exponent of less than 32 bits is added to that of the digits. -/
theorem readExponent_sign (significand : Nat) (exponent : Int) (down : Bool) {size : Nat}
    (hsize : size < UInt32.size / 2) (hrest : EndsValue rest) :
    readExponent significand exponent ((if down then '-' else '+') :: (Text.ofNat size ++ rest)) =
      (·, rest) <$> scaled significand (if down then exponent - size else exponent + size) := by
  have hempty : (Text.ofNat size).isEmpty = false :=
    List.isEmpty_eq_false_iff.2 (Text.ofNat_ne_nil size)
  unfold readExponent
  cases down <;>
    simp only [takeWhile_isDigit_append (isDigit_ofNat size) hrest.noDigit,
      dropWhile_isDigit_append (isDigit_ofNat size) hrest.noDigit, hempty,
      Text.ofDigitChars_ofNat, hsize, if_true, if_false, Bool.false_eq_true]

/-- An exponent with its sign, as the scientific notation has it. -/
def mark (leading : Int) : Text :=
  (if leading < 0 then "e-" else "e+" : Text) ++ Text.ofNat leading.natAbs

theorem exists_mark_eq (leading : Int) : ∃ tail, mark leading = 'e' :: tail := by
  unfold mark
  split <;> exact ⟨_, rfl⟩

theorem readTail_mark (significand : Nat) (exponent : Int) {leading : Int}
    (hleading : leading.natAbs < UInt32.size / 2) (hrest : EndsValue rest) :
    readTail significand exponent (mark leading ++ rest) =
      (·, rest) <$> scaled significand (exponent + leading) := by
  unfold mark
  split
  next hneg =>
    have hsum : exponent + leading = exponent - leading.natAbs := by omega
    rw [hsum]
    exact readExponent_sign significand exponent true hleading hrest
  next hnonneg =>
    have hsum : exponent + leading = exponent + leading.natAbs := by omega
    rw [hsum]
    exact readExponent_sign significand exponent false hleading hrest

/-! ## Numbers of digits -/

theorem mul_pow_le_ofDigitChars (digits : Text) (n : Nat) :
    n * 10 ^ digits.length ≤ Nat.ofDigitChars 10 digits n := by
  induction digits generalizing n with
  | nil => exact Nat.le_of_eq (Nat.mul_one n)
  | cons d digits ih =>
    have hfirst : 10 * n ≤ 10 * n + (d.toNat - '0'.toNat) := Nat.le_add_right _ _
    rw [Nat.ofDigitChars_cons, List.length_cons]
    calc n * 10 ^ (digits.length + 1)
      _ = 10 * n * 10 ^ digits.length := by rw [Nat.pow_succ', Nat.mul_comm 10 n, Nat.mul_assoc]
      _ ≤ (10 * n + (d.toNat - '0'.toNat)) * 10 ^ digits.length := Nat.mul_le_mul_right _ hfirst
      _ ≤ _ := ih _

theorem toNat_sub_le_of_isDigit (hc : c.isDigit = true) : c.toNat - '0'.toNat ≤ 9 := by
  simp only [Char.isDigit, Bool.and_eq_true, decide_eq_true_eq] at hc
  have h : c.toNat ≤ 57 := hc.2
  have hzero : '0'.toNat = 48 := rfl
  omega

theorem ofDigitChars_lt (hdigits : ∀ c ∈ digits, c.isDigit = true) (n : Nat) :
    Nat.ofDigitChars 10 digits n < (n + 1) * 10 ^ digits.length := by
  induction digits generalizing n with
  | nil =>
    rw [Nat.ofDigitChars_nil, List.length_nil]
    omega
  | cons d digits ih =>
    rw [List.forall_mem_cons] at hdigits
    have hd := toNat_sub_le_of_isDigit hdigits.1
    rw [Nat.ofDigitChars_cons, List.length_cons]
    calc Nat.ofDigitChars 10 digits (10 * n + (d.toNat - '0'.toNat))
      _ < (10 * n + (d.toNat - '0'.toNat) + 1) * 10 ^ digits.length := ih hdigits.2 _
      _ ≤ ((n + 1) * 10) * 10 ^ digits.length := Nat.mul_le_mul_right _ (by omega)
      _ = (n + 1) * 10 ^ (digits.length + 1) := by rw [Nat.pow_succ', Nat.mul_assoc]

/-- A significand with room for one more digit takes one at least. -/
theorem length_absorb_lt (hfraction : ∀ c ∈ fraction, c.isDigit = true) (hne : fraction ≠ [])
    (hroom : n * 10 + 9 < UInt64.size) : (absorb n fraction).2.length < fraction.length := by
  cases fraction with
  | nil => exact absurd rfl hne
  | cons d fraction =>
    have hd := toNat_sub_le_of_isDigit (hfraction d List.mem_cons_self)
    have hnext : n * 10 + (d.toNat - '0'.toNat) < UInt64.size := by omega
    obtain ⟨-, front, hfront, -⟩ := absorb_spec fraction _ hnext
    have hlength := congrArg List.length hfront
    rw [List.length_append] at hlength
    rw [absorb, if_pos hnext, List.length_cons]
    omega

/-! ## Decimals -/

/-- A text that is read as some number behind either sign, whatever follows it. -/
def ReadsNumber (text : Text) : Prop :=
  ∀ negative, ∃ y, ∀ rest, EndsValue rest → readNumber negative (text ++ rest) = .ok (y, rest)

/-- The plain notation has few digits in front of the point, so that there is room for one behind it
and the power of ten is negative. -/
theorem readsNumber_plain (whole fraction : Text) (hwhole : IsWhole whole)
    (hlength : whole.length ≤ 16) (hfraction : ∀ c ∈ fraction, c.isDigit = true)
    (hne : fraction ≠ []) : ReadsNumber (whole ++ '.' :: fraction) := by
  intro negative
  have hvalue : Nat.ofDigitChars 10 whole 0 < 10 ^ 16 := by
    have hlt := ofDigitChars_lt hwhole.isDigit 0
    have hpow : 10 ^ whole.length ≤ 10 ^ 16 := Nat.pow_le_pow_right (by decide) hlength
    omega
  have hsize : 10 ^ 16 * 10 < UInt64.size := by decide
  -- Each digit that is taken from the fraction lowers the power of ten.
  have htaken := length_absorb_lt hfraction hne (n := Nat.ofDigitChars 10 whole 0) (by omega)
  obtain ⟨y, hy⟩ := exists_scaled_of_neg (absorb (Nat.ofDigitChars 10 whole 0) fraction).1
    (0 - ((fraction.length - (absorb (Nat.ofDigitChars 10 whole 0) fraction).2.length : Nat) : Int))
    (by omega)
  refine ⟨.double (if negative then y.neg else y), fun rest hrest => ?_⟩
  rw [List.append_assoc, List.cons_append, readNumber_fraction hwhole (by omega),
    readFraction_append _ _ hfraction hne hrest.noDigit, readTail_of_endsValue _ _ hrest, hy]
  rfl

/-- A whole part and an exponent are a number if their product is a double. -/
theorem readsNumber_mark (hwhole : IsWhole whole)
    (hfits : Nat.ofDigitChars 10 whole 0 < UInt64.size) {leading : Int}
    (hleading : leading.natAbs < UInt32.size / 2) {y : Binary64}
    (hy : scaled (Nat.ofDigitChars 10 whole 0) (0 + leading) = .ok y) :
    ReadsNumber (whole ++ mark leading) := by
  intro negative
  refine ⟨.double (if negative then y.neg else y), fun rest hrest => ?_⟩
  obtain ⟨tail, hmark⟩ := exists_mark_eq leading
  rw [List.append_assoc, hmark, List.cons_append, readNumber_exponent hwhole hfits,
    ← List.cons_append, ← hmark, readTail_mark _ _ hleading hrest, hy]
  rfl

/-- So is a whole part with a fraction, whose digits count as far as they are taken. -/
theorem readsNumber_fraction_mark (hwhole : IsWhole whole)
    (hfits : Nat.ofDigitChars 10 whole 0 < UInt64.size)
    (hfraction : ∀ c ∈ fraction, c.isDigit = true) (hne : fraction ≠ []) {leading : Int}
    (hleading : leading.natAbs < UInt32.size / 2) {y : Binary64}
    (hy : scaled (absorb (Nat.ofDigitChars 10 whole 0) fraction).1
      (0 - (fraction.length - (absorb (Nat.ofDigitChars 10 whole 0) fraction).2.length : Nat) +
        leading) = .ok y) :
    ReadsNumber (whole ++ '.' :: fraction ++ mark leading) := by
  intro negative
  refine ⟨.double (if negative then y.neg else y), fun rest hrest => ?_⟩
  have hmark : NoDigit (mark leading ++ rest) := by
    obtain ⟨tail, hmark⟩ := exists_mark_eq leading
    rw [hmark]
    exact noDigit_cons rfl _
  rw [List.append_assoc, List.append_assoc, List.cons_append, readNumber_fraction hwhole hfits,
    readFraction_append _ _ hfraction hne hmark, readTail_mark _ _ hleading hrest, hy]
  rfl

variable {d : Binary64.Decimal}

theorem readsNumber_plainDecimal (hd : Scalable d)
    (hleading : d.exponent + (Text.ofNat d.digits).length - 1 < 16) :
    ReadsNumber (plain (Text.ofNat d.digits) d.exponent) := by
  unfold plain
  dsimp only
  split
  next hexponent =>
    refine readsNumber_plain _ ['0'] (isWhole_append hd.digits_pos (isDigit_zeros _)) ?_
      (isDigit_zeros 1) (List.cons_ne_nil _ _)
    rw [List.length_append, zeros, List.length_replicate]
    omega
  next hexponent =>
  split
  next hpoint =>
    rw [List.append_assoc]
    refine readsNumber_plain _ (List.drop _ _) (isWhole_take hd.digits_pos (by omega)) ?_ ?_ ?_
    · rw [List.length_take]
      omega
    · exact fun c hc => isDigit_ofNat d.digits c (List.mem_of_mem_drop hc)
    · rw [ne_eq, List.drop_eq_nil_iff]
      omega
  next hpoint =>
    rw [List.append_assoc]
    refine readsNumber_plain ['0'] (zeros _ ++ _) isWhole_zero (by decide) ?_ ?_
    · exact List.forall_mem_append.2 ⟨isDigit_zeros _, isDigit_ofNat d.digits⟩
    · exact List.append_ne_nil_of_right_ne_nil _ (Text.ofNat_ne_nil d.digits)

/-- The first digit of a positive number is one of its own, and the others follow it. -/
theorem ofDigitChars_take_one (hpos : 0 < n) :
    0 < Nat.ofDigitChars 10 ((Text.ofNat n).take 1) 0 ∧
      Nat.ofDigitChars 10 ((Text.ofNat n).take 1) 0 ≤ 9 ∧
      Nat.ofDigitChars 10 ((Text.ofNat n).drop 1)
        (Nat.ofDigitChars 10 ((Text.ofNat n).take 1) 0) = n := by
  have hdigit := isWhole_take hpos Nat.one_pos
  have hlt := ofDigitChars_lt hdigit.isDigit 0
  have hlength : ((Text.ofNat n).take 1).length ≤ 1 := List.length_take_le 1 _
  have hpow : 10 ^ ((Text.ofNat n).take 1).length ≤ 10 ^ 1 := Nat.pow_le_pow_right (by decide) hlength
  have hvalue : Nat.ofDigitChars 10 ((Text.ofNat n).drop 1)
      (Nat.ofDigitChars 10 ((Text.ofNat n).take 1) 0) = n := by
    rw [← Nat.ofDigitChars_append, List.take_append_drop, Text.ofDigitChars_ofNat]
  refine ⟨?_, by omega, hvalue⟩
  obtain ⟨c, tail, hn, hc⟩ := exists_ofNat_eq n
  have hzero : c.toNat ≠ '0'.toNat := by
    intro heq
    have hne := Text.head?_ofNat_ne hpos
    rw [hn, Char.toNat_inj.1 heq] at hne
    exact hne rfl
  have hge : '0'.toNat ≤ c.toNat := by
    simp only [Char.isDigit, Bool.and_eq_true, decide_eq_true_eq] at hc
    exact hc.1
  rw [hn, List.take_succ_cons, List.take_zero, Nat.ofDigitChars_cons, Nat.ofDigitChars_nil]
  omega

theorem pow_le_of_length (hpos : 0 < n) : 10 ^ ((Text.ofNat n).length - 1) ≤ n := by
  cases Nat.eq_zero_or_pos ((Text.ofNat n).length - 1) with
  | inl h =>
    rw [h]
    exact hpos
  | inr h =>
    have hlength : ¬ (Text.ofNat n).length ≤ (Text.ofNat n).length - 1 := by omega
    exact Nat.not_lt.1 (mt (Text.length_ofNat_le_iff h).2 hlength)

/-- The power of ten of the first digit is small enough to be read. -/
theorem Scalable.natAbs_leading_lt (hd : Scalable d) :
    (d.exponent + (Text.ofNat d.digits).length - 1).natAbs < UInt32.size / 2 := by
  have hpos := List.length_pos_iff.2 (Text.ofNat_ne_nil d.digits)
  have hlt := hd.exponent_lt _ (pow_le_of_length hd.digits_pos)
  have hle := hd.le_exponent
  have hsize : UInt32.size / 2 = 2147483648 := rfl
  omega

theorem scientific_eq (digits : Text) (leading : Int) :
    scientific digits leading =
      digits.take 1 ++ (if digits.drop 1 = [] then [] else '.' :: digits.drop 1) ++ mark leading :=
  List.append_assoc _ _ _

/-- The scientific notation leaves the power of ten to the digits that there is no room for. -/
theorem readsNumber_scientific (hd : Scalable d) :
    ReadsNumber (scientific (Text.ofNat d.digits)
      (d.exponent + (Text.ofNat d.digits).length - 1)) := by
  have hleading := hd.natAbs_leading_lt
  have hwhole := isWhole_take hd.digits_pos Nat.one_pos
  obtain ⟨hpos, hsmall, hvalue⟩ := ofDigitChars_take_one hd.digits_pos
  have hword : 10 ^ 10 < UInt64.size := by decide
  have hlength : 0 < (Text.ofNat d.digits).length :=
    List.length_pos_iff.2 (Text.ofNat_ne_nil d.digits)
  have hdrop := List.length_drop (i := 1) (l := Text.ofNat d.digits)
  have hisDigit : ∀ c ∈ (Text.ofNat d.digits).drop 1, c.isDigit = true :=
    fun c hc => isDigit_ofNat d.digits c (List.mem_of_mem_drop hc)
  rw [scientific_eq]
  generalize (Text.ofNat d.digits).take 1 = whole at *
  generalize (Text.ofNat d.digits).drop 1 = fraction at *
  split
  next hnone =>
    -- The only digit is the whole significand.
    rw [hnone, List.length_nil] at hdrop
    rw [hnone, Nat.ofDigitChars_nil] at hvalue
    obtain ⟨y, hy⟩ := hd.scaled (Nat.ofDigitChars 10 whole 0) 0 hpos (by omega) (by omega)
    rw [List.append_nil]
    refine readsNumber_mark hwhole (by omega) hleading (y := y) ?_
    rw [← hy]
    congr 1
    omega
  next hsome =>
    obtain ⟨hfits, front, hfront, htaken⟩ :=
      absorb_spec fraction (Nat.ofDigitChars 10 whole 0) (by omega)
    -- With the digits that are dropped, the significand is all of the digits again.
    have hall : Nat.ofDigitChars 10 (absorb (Nat.ofDigitChars 10 whole 0) fraction).2
        (absorb (Nat.ofDigitChars 10 whole 0) fraction).1 = d.digits := by
      rw [htaken, ← Nat.ofDigitChars_append, ← hfront, hvalue]
    have hfirst := le_ofDigitChars front (Nat.ofDigitChars 10 whole 0)
    have hdropped := hall ▸ mul_pow_le_ofDigitChars _ _
    have hparts := congrArg List.length hfront
    rw [List.length_append] at hparts
    obtain ⟨y, hy⟩ := hd.scaled _ _ (by omega) hfits hdropped
    refine readsNumber_fraction_mark hwhole (by omega) hisDigit hsome hleading (y := y) ?_
    rw [← hy]
    congr 1
    omega

/-- A printed decimal is a number for the reader. -/
theorem readsNumber_decimal (hd : Scalable d) : ReadsNumber (decimal d) := by
  unfold decimal
  dsimp only
  split
  next hplain => exact readsNumber_plainDecimal hd hplain.2
  next => exact readsNumber_scientific hd

end SourceGrade.Json
