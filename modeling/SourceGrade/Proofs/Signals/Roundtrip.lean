import SourceGrade.Proofs.Json.Accuracy
import SourceGrade.Proofs.Json.Roundtrip
import SourceGrade.Proofs.Text.Size

/-!
# Signals of a text read back

The signals of a text fit their printed form, whatever the text is, and all of them are read back as
they were but the mean length. That one is read as a double no further away than its digits and its
power of ten have to be rounded on the way (`ofJson_pretty_ofText`).
-/

namespace SourceGrade

open Binary64 (hiddenBit infinityWord magnitude nearestWord ofRatio_false)

/-! ## Sizes -/

theorem Text.length_trimEnd_le (text : Text) : text.trimEnd.length ≤ text.length := by
  rw [trimEnd, List.length_reverse]
  exact (List.dropWhile_suffix _).length_le.trans_eq List.length_reverse

namespace Signals

/-- The lines of a text hold no more characters than the text. -/
theorem totalLength_linesFrom_le (read text : Text) :
    totalLength (Text.linesFrom read text) ≤ read.length + text.length := by
  fun_induction Text.linesFrom read text with
  | case1 read hempty => exact Nat.zero_le _
  | case2 read hempty =>
    have hline := Text.length_trimEnd_le read.reverse
    rw [List.length_reverse] at hline
    exact hline
  | case3 read rest ih | case4 read c rest _ _ ih =>
    have hline := Text.length_trimEnd_le read.reverse
    rw [List.length_reverse] at hline
    simp only [totalLength, List.map_cons, List.foldr_cons, List.length_cons, List.length_nil] at ih ⊢
    omega
  | case5 read c rest _ _ ih =>
    rw [List.length_cons] at ih ⊢
    omega

theorem totalLength_lines_le (text : Text) : totalLength text.lines ≤ text.length :=
  (totalLength_linesFrom_le [] text).trans_eq (Nat.zero_add _)

/-- No count goes beyond the number of characters. -/
theorem counts_ofText_le (text : Text) : ∀ n ∈ (ofText text).counts, n ≤ text.length := by
  have hlines := text.length_lines_le_length
  simp only [counts, ofText, List.forall_mem_cons]
  exact ⟨hlines, List.countP_le_length.trans hlines, declaration.length_findAll_le_length text,
    loop.length_findAll_le_length text, dangerousCall.length_findAll_le_length text,
    List.forall_mem_nil _⟩

/-! ## Mean lengths -/

section

variable {n total count : Nat}

theorem one_le_magnitude (hpos : 0 < n) : 1 ≤ magnitude (nearestWord n 1) := by
  have hone : magnitude (nearestWord 1 1) = (1 : Nat) :=
    Binary64.magnitude_nearestWord_of_lt (by decide)
  rw [Nat.cast_one] at hone
  exact hone.symm.le.trans (Binary64.magnitude_mono (Binary64.nearestWord_ofNat_mono hpos))

theorem magnitude_le_size (hn : n ≤ UInt64.size) : magnitude (nearestWord n 1) ≤ UInt64.size := by
  have hsize : (UInt64.size : ℚ) / (1 : Nat) = (1 : Nat) * 2 ^ ((1138 : Nat) + Binary64.minExponent) := by
    norm_num [UInt64.size, Binary64.minExponent]
  have hmagnitude := Binary64.magnitude_nearestWord_of_eq Nat.one_pos (by decide) (by decide) hsize
  rw [Nat.cast_one, div_one] at hmagnitude
  exact (Binary64.magnitude_mono (Binary64.nearestWord_ofNat_mono hn)).trans_eq hmagnitude

/-- Two integers of 64 bits have a quotient that is zero or neither too small nor too large. -/
theorem exists_meanLength_eq (htotal : total < UInt64.size) (hcount : count < UInt64.size) :
    ∃ word, meanLength total count = ⟨.ofNat word⟩ ∧
      (word = 0 ∨ 959 * hiddenBit ≤ word) ∧ word ≤ 1087 * hiddenBit := by
  have hleast : nearestWord 1 UInt64.size = 959 * hiddenBit := by decide +kernel
  have hmost : nearestWord UInt64.size 1 = 1087 * hiddenBit := by decide +kernel
  have hinfinity : 1087 * hiddenBit < infinityWord := by decide
  have hsize : (0 : ℚ) < UInt64.size := by norm_num [UInt64.size]
  have hmax : 0 < max count 1 := by omega
  have hmax' : max count 1 ≤ UInt64.size := by
    have hone : 1 ≤ UInt64.size := by decide
    omega
  have hone := one_le_magnitude hmax
  have hpos := zero_lt_one.trans_le hone
  obtain ⟨num, den, hden, hdiv, hquotient⟩ := Binary64.exists_div_eq
    ((Binary64.nearestWord_ofNat_mono htotal.le).trans_lt (hmost ▸ hinfinity))
    ((Binary64.nearestWord_ofNat_mono hmax').trans_lt (hmost ▸ hinfinity)) hpos
  refine ⟨nearestWord num den, ?_, ?_, ?_⟩
  · rw [meanLength, Binary64.ofNat, Binary64.ofNat, ofRatio_false, ofRatio_false, hdiv, ofRatio_false]
  · rcases Nat.eq_zero_or_pos total with rfl | htotalPos
    · left
      have hzero : magnitude (nearestWord 0 1) = (0 : Nat) :=
        Binary64.magnitude_nearestWord_of_lt (by decide)
      rw [hzero, Nat.cast_zero, zero_div, div_eq_zero_iff, Nat.cast_eq_zero, Nat.cast_eq_zero] at hquotient
      rw [hquotient.resolve_right hden.ne']
      rfl
    · right
      rw [← hleast]
      refine Binary64.nearestWord_mono (by decide) hden ?_
      rw [hquotient, Nat.cast_one]
      exact div_le_div₀ (Binary64.magnitude_nonneg _) (one_le_magnitude htotalPos) hpos
        (magnitude_le_size hmax')
  · rw [← hmost]
    refine Binary64.nearestWord_mono hden Nat.one_pos ?_
    rw [hquotient, Nat.cast_one]
    exact div_le_div₀ hsize.le (magnitude_le_size htotal.le) one_pos hone

end

/-! ## Signals -/

theorem isFinite_of_lt {x : Binary64} (h : x.word.toNat < infinityWord) : x.IsFinite := by
  obtain ⟨mantissa, exponent, hvalue, -⟩ := Binary64.exists_value h
  rw [UInt64.ofNat_toNat] at hvalue
  exact ⟨false, mantissa, exponent, hvalue⟩

/-- A mean length is read as a double that is no further away than its digits have to be rounded. -/
theorem exists_readDouble_meanLength {total count : Nat} (htotal : total < UInt64.size)
    (hcount : count < UInt64.size) {mean : Binary64} (hmean : meanLength total count = mean) :
    ∃ y : Binary64, y.IsFinite ∧
      (∀ rest, Json.EndsValue rest → Json.readDouble (Json.ofDouble mean ++ rest) = .ok (y, rest)) ∧
      y.word.toNat ≤ mean.word.toNat + Json.roundings (Json.printed mean) ∧
      mean.word.toNat ≤ y.word.toNat + Json.roundings (Json.printed mean) := by
  obtain ⟨word, hword, hlow, hhigh⟩ := exists_meanLength_eq htotal hcount
  rw [hword] at hmean
  subst hmean
  have hhidden : hiddenBit = 4503599627370496 := rfl
  have hinfinity : infinityWord = 2047 * hiddenBit := rfl
  have hleast : Binary64.minExponent = -1074 := rfl
  have hsize : infinityWord < UInt64.size := by decide
  obtain ⟨mantissa, exponent, hvalue, -⟩ := Binary64.exists_value (by omega : word < infinityWord)
  have htoNat : (UInt64.ofNat word).toNat = word := UInt64.toNat_ofNat_of_lt' (by omega)
  have hroundings := Json.roundings_le (Json.printed ⟨.ofNat word⟩)
  have hfinite : (UInt64.ofNat word).toNat + Json.roundings (Json.printed ⟨.ofNat word⟩) <
      infinityWord := by omega
  obtain ⟨-, -, field, hsplits, hexponent⟩ := Binary64.exists_splits_of_value hvalue
  have hreach : 0 < mantissa → -900 ≤ exponent ∧ exponent ≤ 900 := by
    have hparts := htoNat.symm.trans hsplits.word_eq
    have hbit := hsplits.hidden
    have hmantissa := hsplits.mantissa_lt
    rw [hhidden] at hlow hhigh hparts hbit hmantissa
    omega
  obtain ⟨y, hread, hbelow, habove⟩ := Json.exists_readDouble_near hvalue
    (Json.natAbs_exponent_printed_le hvalue hreach) hfinite
  exact ⟨y, isFinite_of_lt (hbelow.trans_lt hfinite), hread, hbelow, habove⟩

/-- The signals of a text are read back from their printed form with every field as it was but the
mean length, which comes back as a finite double at most as many doubles away as the reader has to
round: once if the digits of the mean are an integer beyond 53 bits, and once if they come with a power
of ten beyond the 22nd. With neither of them the signals are read back exactly. -/
theorem ofJson_pretty_ofText (text : Text) (htext : text.length < UInt64.size) :
    let signals := ofText text
    let roundings := Json.roundings (Json.printed signals.averageLength)
    (∃ y : Binary64, y.IsFinite ∧
      ofJson signals.toJson.pretty = .ok { signals with averageLength := y } ∧
      y.word.toNat ≤ signals.averageLength.word.toNat + roundings ∧
      signals.averageLength.word.toNat ≤ y.word.toNat + roundings) ∧
    (roundings = 0 → ofJson signals.toJson.pretty = .ok signals) := by
  intro signals roundings
  obtain ⟨y, hfinite, hread, hbelow, habove⟩ := exists_readDouble_meanLength
    ((totalLength_lines_le text).trans_lt htext) (text.length_lines_le_length.trans_lt htext)
    (rfl : _ = signals.averageLength)
  have hjson : ofJson signals.toJson.pretty = .ok { signals with averageLength := y } :=
    ofJson_pretty_of_readDouble (fun n hn => (counts_ofText_le text n hn).trans_lt htext) hread
  refine ⟨⟨y, hfinite, hjson, hbelow, habove⟩, fun hexact => ?_⟩
  have hword : y.word.toNat = signals.averageLength.word.toNat := by omega
  have hsame : y = signals.averageLength := congrArg Binary64.mk (UInt64.toNat_inj.1 hword)
  rw [hjson, hsame]

/-- A letter and ten lines more: the digits of one eleventh are beyond 53 bits. -/
def elevenLines : Text := 'x' :: List.replicate 11 '\n'

theorem ofJson_pretty_elevenLines_ne :
    ofJson (ofText elevenLines).toJson.pretty ≠ .ok (ofText elevenLines) := by
  decide +kernel

theorem ofJson_pretty_elevenLines :
    elevenLines.length < UInt64.size ∧
    Json.roundings (Json.printed (ofText elevenLines).averageLength) = 1 ∧
    (∃ y : Binary64, y.IsFinite ∧
      ofJson (ofText elevenLines).toJson.pretty =
        .ok { ofText elevenLines with averageLength := y } ∧
      y.word.toNat ≤ (ofText elevenLines).averageLength.word.toNat + 1 ∧
      (ofText elevenLines).averageLength.word.toNat ≤ y.word.toNat + 1) ∧
    ofJson (ofText "one\n").toJson.pretty = .ok (ofText "one\n") := by
  have hlength : elevenLines.length < UInt64.size := by decide
  have hone : Json.roundings (Json.printed (ofText elevenLines).averageLength) = 1 := by
    decide +kernel
  have hnone : Json.roundings (Json.printed (ofText "one\n").averageLength) = 0 := by
    decide +kernel
  obtain ⟨hnear, -⟩ := ofJson_pretty_ofText elevenLines hlength
  rw [hone] at hnear
  exact ⟨hlength, hone, hnear, (ofJson_pretty_ofText "one\n" (by decide)).2 hnone⟩

end Signals

end SourceGrade
