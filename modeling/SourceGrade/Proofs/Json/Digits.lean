import Mathlib.Algebra.Group.Nat.Defs
import SourceGrade.Proofs.Json.Strings
import SourceGrade.Proofs.Text.Delimiter

/-!
# Digits read back

The digits at the front of a number as its reader takes them. A natural number of 64 bits that is
printed is read back as it was; of more digits, as many count as the word has room for.
-/

namespace SourceGrade

/-! ## Digits of a number -/

theorem Text.ofNat_ne_nil (n : Nat) : Text.ofNat n ≠ [] := Nat.toDigits_ne_nil

theorem Text.ofDigitChars_ofNat (n : Nat) : Nat.ofDigitChars 10 (Text.ofNat n) 0 = n :=
  Nat.ofDigitChars_ten_toDigits

theorem Text.length_ofNat_le_iff {n k : Nat} (hk : 0 < k) :
    (Text.ofNat n).length ≤ k ↔ n < 10 ^ k :=
  Nat.length_toDigits_le_iff (by decide) hk

/-- No digits of a number but its own zero start with a zero. -/
theorem Text.head?_ofNat_ne {n : Nat} (hn : 0 < n) : (Text.ofNat n).head? ≠ some '0' := by
  induction n using Nat.strongRecOn with
  | ind n ih =>
    have hdigit : ∀ n < 10, 0 < n → Nat.digitChar n ≠ '0' := by decide
    unfold Text.ofNat
    rw [Nat.toDigits_eq_if (by decide)]
    split
    next hlt =>
      rw [List.head?_cons]
      exact fun h => hdigit n hlt hn (Option.some.inj h)
    next hle =>
      have hfront := ih (n / 10) (by omega) (by omega)
      unfold Text.ofNat at hfront
      cases hdigits : Nat.toDigits 10 (n / 10) with
      | nil => exact absurd hdigits Nat.toDigits_ne_nil
      | cons c tail =>
        rw [hdigits] at hfront
        exact hfront

namespace Json

variable {c : Char} {digits rest : Text} {n : Nat}

/-! ## The digits in front -/

/-- A text that does not go on with a digit. -/
def NoDigit (rest : Text) : Prop := ∀ c, rest.head? = some c → c.isDigit = false

theorem noDigit_cons (hc : c.isDigit = false) (rest : Text) : NoDigit (c :: rest) := by
  intro d hd
  cases hd
  exact hc

theorem EndsValue.noDigit (h : EndsValue rest) : NoDigit rest := by
  obtain ⟨c, tail, rfl, rfl | rfl⟩ := h <;> exact noDigit_cons rfl tail

theorem dropWhile_isDigit (hrest : NoDigit rest) : rest.dropWhile Char.isDigit = rest := by
  cases rest with
  | nil => rfl
  | cons c rest =>
    refine List.dropWhile_cons_of_neg ?_
    rw [hrest c rfl]
    exact Bool.false_ne_true

theorem takeWhile_isDigit (hrest : NoDigit rest) : rest.takeWhile Char.isDigit = [] := by
  cases rest with
  | nil => rfl
  | cons c rest =>
    refine List.takeWhile_cons_of_neg ?_
    rw [hrest c rfl]
    exact Bool.false_ne_true

theorem dropWhile_isDigit_append (hdigits : ∀ c ∈ digits, c.isDigit = true) (hrest : NoDigit rest) :
    (digits ++ rest).dropWhile Char.isDigit = rest := by
  rw [List.dropWhile_append_of_pos hdigits, dropWhile_isDigit hrest]

theorem takeWhile_isDigit_append (hdigits : ∀ c ∈ digits, c.isDigit = true) (hrest : NoDigit rest) :
    (digits ++ rest).takeWhile Char.isDigit = digits := by
  rw [List.takeWhile_append_of_pos hdigits, takeWhile_isDigit hrest, List.append_nil]

/-! ## The significand -/

/-- What the significand takes from the digits is its number, and it fits 64 bits. -/
theorem absorb_spec (digits : Text) (significand : Nat) (h : significand < UInt64.size) :
    (absorb significand digits).1 < UInt64.size ∧ ∃ front,
      digits = front ++ (absorb significand digits).2 ∧
        (absorb significand digits).1 = Nat.ofDigitChars 10 front significand := by
  induction digits generalizing significand with
  | nil => exact ⟨h, [], rfl, rfl⟩
  | cons d digits ih =>
    rw [absorb]
    split
    next hnext =>
      obtain ⟨hfits, front, hfront, hvalue⟩ := ih _ hnext
      refine ⟨hfits, d :: front, congrArg (d :: ·) hfront, ?_⟩
      rw [Nat.ofDigitChars_cons, Nat.mul_comm 10]
      exact hvalue
    next => exact ⟨h, [], rfl, rfl⟩

theorem le_ofDigitChars (digits : Text) (n : Nat) : n ≤ Nat.ofDigitChars 10 digits n := by
  induction digits generalizing n with
  | nil => exact Nat.le_refl n
  | cons d digits ih =>
    rw [Nat.ofDigitChars_cons]
    have h := ih (10 * n + (d.toNat - '0'.toNat))
    omega

/-- Digits whose number fits 64 bits are all taken. -/
theorem absorb_of_lt {significand : Nat}
    (h : Nat.ofDigitChars 10 digits significand < UInt64.size) :
    absorb significand digits = (Nat.ofDigitChars 10 digits significand, []) := by
  induction digits generalizing significand with
  | nil => rfl
  | cons d digits ih =>
    rw [Nat.ofDigitChars_cons, Nat.mul_comm 10] at h ⊢
    have hnext := Nat.lt_of_le_of_lt (le_ofDigitChars digits _) h
    rw [absorb]
    rw [if_pos hnext]
    exact ih h

/-! ## Natural numbers -/

theorem isDigit_ofNat (n : Nat) : ∀ c ∈ Text.ofNat n, c.isDigit = true :=
  fun _ => Text.isDigit_of_mem_ofNat

/-- A number starts with a digit, and with a zero only if it is one. -/
theorem not_leadingZero (n : Nat) :
    ¬((Text.ofNat n).head? = some '0' ∧ 1 < (Text.ofNat n).length) := by
  rintro ⟨hhead, hlength⟩
  cases Nat.eq_zero_or_pos n with
  | inl hzero =>
    rw [hzero] at hlength
    exact absurd hlength (by decide)
  | inr hpos => exact Text.head?_ofNat_ne hpos hhead

theorem readNumber_ofNat (negative : Bool) (hn : n < UInt64.size) (hrest : EndsValue rest) :
    readNumber negative (Text.ofNat n ++ rest) = .ok (.ofInteger negative n, rest) := by
  have habsorb : absorb 0 (Text.ofNat n) = (n, []) := by
    have hvalue := Text.ofDigitChars_ofNat n
    rw [absorb_of_lt (by rw [hvalue]; exact hn), hvalue]
  have hempty : (Text.ofNat n).isEmpty = false := by
    rw [List.isEmpty_eq_false_iff]
    exact Text.ofNat_ne_nil n
  unfold readNumber
  rw [takeWhile_isDigit_append (isDigit_ofNat n) hrest.noDigit,
    dropWhile_isDigit_append (isDigit_ofNat n) hrest.noDigit]
  dsimp only
  rw [hempty, if_neg Bool.false_ne_true, if_neg (not_leadingZero n), habsorb]
  obtain ⟨c, tail, rfl, rfl | rfl⟩ := hrest <;> rfl

theorem isSpace_of_isDigit (hc : c.isDigit = true) : isSpace c = false := by
  rw [Bool.eq_false_iff]
  intro hspace
  simp only [isSpace, Bool.or_eq_true, beq_iff_eq] at hspace
  rcases hspace with ((rfl | rfl) | rfl) | rfl <;> cases hc

theorem exists_ofNat_eq (n : Nat) : ∃ c tail, Text.ofNat n = c :: tail ∧ c.isDigit = true := by
  cases hdigits : Text.ofNat n with
  | nil => exact absurd hdigits (Text.ofNat_ne_nil n)
  | cons c tail => exact ⟨c, tail, rfl, isDigit_ofNat n c (hdigits ▸ List.mem_cons_self)⟩

/-- A printed count below its bound is read back as it was. -/
theorem readCount_ofNat {bound : Nat} (hbound : bound ≤ UInt64.size) (hn : n < bound)
    (hrest : EndsValue rest) : readCount bound (Text.ofNat n ++ rest) = .ok (n, rest) := by
  have hread := readNumber_ofNat false (Nat.lt_of_lt_of_le hn hbound) hrest
  obtain ⟨c, tail, hdigits, hc⟩ := exists_ofNat_eq n
  rw [hdigits, List.cons_append] at hread ⊢
  unfold readCount
  rw [skipSpace_cons (isSpace_of_isDigit hc)]
  split
  next heq =>
    cases heq
    cases hc
  next =>
    rw [List.head?_cons, Option.any_some, if_pos hc, hread]
    exact if_pos hn

end Json

end SourceGrade
