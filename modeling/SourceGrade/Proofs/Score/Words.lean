import SourceGrade.Proofs.Breakdown.Monotone
import SourceGrade.Proofs.Signals.Words
import SourceGrade.Score

/-!
# Scores in machine words

A score computed with words of 64 and 32 bits, where a number that does not fit leaves no result. For
texts of up to 2 ^ 33 bytes every number fits, and the sub-scores are those of the integers.
-/

namespace SourceGrade

open Binary64 WordRange

/-! ## Small signals -/

/-- Signals whose counts stay far from the ends of words. -/
structure Signals.Small (s : Signals) : Prop where
  lines_le : s.lines ≤ 2 ^ 33
  commentLines_le : s.commentLines ≤ 2 ^ 33
  loops_le : s.loops ≤ 2 ^ 33
  dangerousCalls_le : s.dangerousCalls ≤ 2 ^ 33
  /-- They are added to a sub-score of 32 bits. -/
  functions_le : s.functions ≤ 2 ^ 31
  exists_total : ∃ total ≤ 2 ^ 33, s.averageLength = meanLength total s.lines

theorem Signals.small_ofText {text : Text} (h : (Utf8.encode text).length ≤ 2 ^ 33) :
    (ofText text).Small := by
  have hlength := (Utf8.length_le_length_encode text).trans h
  have hlines := text.length_lines_le_length.trans hlength
  -- A declaration has four characters at least.
  have hfunctions := Pattern.length_findAll_mul_le
    (by decide +kernel : ∀ literal ∈ declaration.literals, 4 ≤ literal.length) text
  exact {
    lines_le := hlines
    commentLines_le := List.countP_le_length.trans hlines
    loops_le := (loop.length_findAll_le_length text).trans hlength
    dangerousCalls_le := (dangerousCall.length_findAll_le_length text).trans hlength
    functions_le := show (declaration.findAll text).length ≤ 2 ^ 31 by omega
    exists_total := ⟨_, (totalLength_lines_le text).trans hlength, rfl⟩ }

/-! ## Sub-scores -/

namespace Breakdown

def longLinePenalty? (s : Signals) : Option ℤ := (div s.averageLength (.ofNat 5)).truncate?

def commentGapPenalty? (s : Signals) : Option ℤ := do
  let wanted ← (mul (.ofNat s.lines) (.ofRatio false 1 10)).finite?
  let gap ← (sub (.ofNat s.commentLines) wanted).abs.finite?
  (gap.div (.ofNat 2)).truncate?

def readability? (s : Signals) : Option ℤ := do
  let long ← longLinePenalty? s
  let gap ← commentGapPenalty? s
  let rest ← signed64.hold? (20 - long)
  signed64.hold? (rest - gap)

def maintainability? (s : Signals) : Option ℤ := do
  let loops ← signed64.hold? s.loops
  let cost ← signed64.hold? (2 * loops)
  let rest ← signed64.hold? (20 - cost)
  let functions ← signed64.hold? s.functions
  signed64.hold? (rest + functions)

def performance? (s : Signals) : Option ℤ := do
  let cost ← signed64.hold? (s.lines / 200 : Nat)
  signed64.hold? (15 - cost)

def security? (s : Signals) : Option ℤ := do
  let calls ← signed64.hold? s.dangerousCalls
  let cost ← signed64.hold? (2 * calls)
  signed64.hold? (10 - cost)

/-- A sub-score that is not negative has to be a word of 32 bits. -/
def floorAtZero? (i : ℤ) : Option Nat := unsigned32.count? i.toNat

def ofSignals? (s : Signals) : Option Breakdown := do
  let readability ← readability? s
  let maintainability ← maintainability? s
  let performance ← performance? s
  let security ← security? s
  return {
    readability := ← floorAtZero? readability
    maintainability := ← floorAtZero? maintainability
    robustness := if s.hasErrorHandling then 15 else 8
    performance := ← floorAtZero? performance
    security := ← floorAtZero? security
    testability := if s.hasTests then 10 else 4
    consistency := if s.trailingNewline then 10 else 7 }

def total? (b : Breakdown) : Option Nat := unsigned32.sum? (b.entries.map Prod.snd)

theorem signed64_hold?_eq {i : ℤ} (hlow : -2 ^ 60 ≤ i) (hhigh : i ≤ 2 ^ 60) :
    signed64.hold? i = some i := by
  have hsign : signBit = 2 ^ 63 := rfl
  have hrange : signed64.least = -signBit ∧ signed64.most = signBit - 1 := ⟨rfl, rfl⟩
  refine hold?_eq ?_ ?_ <;> omega

theorem signed64_hold?_bind {i : ℤ} {f : ℤ → Option ℤ} (hlow : -2 ^ 60 ≤ i) (hhigh : i ≤ 2 ^ 60) :
    (signed64.hold? i).bind f = f i := by
  rw [signed64_hold?_eq hlow hhigh, Option.bind_some]

section

variable {s : Signals} (h : s.Small)

include h

theorem maintainability?_eq :
    maintainability? s = some (20 - 2 * (s.loops : ℤ) + s.functions) := by
  have hloops := h.loops_le
  have hfunctions := h.functions_le
  rw [maintainability?, Option.bind_eq_bind, signed64_hold?_bind (by omega) (by omega),
    signed64_hold?_bind (by omega) (by omega), signed64_hold?_bind (by omega) (by omega),
    signed64_hold?_bind (by omega) (by omega), signed64_hold?_eq (by omega) (by omega)]

theorem performance?_eq : performance? s = some (15 - (s.lines / 200 : Nat) : ℤ) := by
  have hlines := h.lines_le
  rw [performance?, Option.bind_eq_bind, signed64_hold?_bind (by omega) (by omega),
    signed64_hold?_eq (by omega) (by omega)]

theorem security?_eq : security? s = some (10 - 2 * (s.dangerousCalls : ℤ)) := by
  have hcalls := h.dangerousCalls_le
  rw [security?, Option.bind_eq_bind, signed64_hold?_bind (by omega) (by omega),
    signed64_hold?_bind (by omega) (by omega), signed64_hold?_eq (by omega) (by omega)]

theorem longLinePenalty_mem : 0 ≤ longLinePenalty s ∧ longLinePenalty s ≤ 2 ^ 33 := by
  obtain ⟨total, htotal, havg⟩ := h.exists_total
  have hlines := h.lines_le
  have hle : total / (5 * max s.lines 1) ≤ total := Nat.div_le_self _ _
  rw [longLinePenalty_eq havg (by omega) (by omega)]
  exact ⟨Int.natCast_nonneg _, by exact_mod_cast hle.trans htotal⟩

theorem commentGapPenalty_mem : 0 ≤ commentGapPenalty s ∧ commentGapPenalty s ≤ 2 ^ 33 := by
  have hlines := h.lines_le
  have hcomments := h.commentLines_le
  rw [commentGapPenalty_eq (by omega) (by omega)]
  omega

/-- The penalty is small, and so it has not been cut down to the last word. -/
theorem longLinePenalty?_eq : longLinePenalty? s = some (longLinePenalty s) := by
  obtain ⟨total, htotal, havg⟩ := h.exists_total
  have hlines := h.lines_le
  have hmean := Signals.faithful_meanLength (by omega : total ≤ 2 ^ 40) (by omega : s.lines ≤ 2 ^ 40)
  rw [← havg] at hmean
  have hquotient : (s.averageLength.div (.ofNat 5)).IsMagnitude :=
    isMagnitude_div hmean.isMagnitude (faithful_ofNat (by decide)).isMagnitude
      (by rw [size_ofNat (by decide)]; norm_num)
  have hsign : signBit = 2 ^ 63 := rfl
  have hpenalty := longLinePenalty_mem h
  exact hquotient.truncate?_eq (show longLinePenalty s < _ by omega)

theorem commentGapPenalty?_eq : commentGapPenalty? s = some (commentGapPenalty s) := by
  have hlines := h.lines_le
  have hcomments := h.commentLines_le
  have hroom : 2 ^ 40 ≤ hiddenBit := by decide
  have hwanted := (faithful_mul_tenth (by omega : s.lines ≤ hiddenBit)).isMagnitude
  have hcount := (faithful_ofNat (by omega : s.commentLines ≤ hiddenBit)).isMagnitude
  have hgap := isMagnitude_abs_sub hcount hwanted
  have hquotient := isMagnitude_div hgap (faithful_ofNat (by decide : 2 ≤ hiddenBit)).isMagnitude
    (by rw [size_ofNat (by decide)]; norm_num)
  have hsign : signBit = 2 ^ 63 := rfl
  have hpenalty := commentGapPenalty_mem h
  simp only [commentGapPenalty?, hwanted.finite?_eq, hgap.finite?_eq, Option.bind_eq_bind,
    Option.bind_some]
  exact hquotient.truncate?_eq (show commentGapPenalty s < _ by omega)

theorem readability?_eq : readability? s = some (20 - longLinePenalty s - commentGapPenalty s) := by
  have hlong := longLinePenalty_mem h
  have hgap := commentGapPenalty_mem h
  rw [readability?, longLinePenalty?_eq h, commentGapPenalty?_eq h, Option.bind_eq_bind,
    Option.bind_some, Option.bind_some,
    signed64_hold?_bind (by omega) (by omega), signed64_hold?_eq (by omega) (by omega)]

end

/-- Below 2 ^ 32 the upper end of the clamp is not reached. -/
theorem floorAtZero?_eq {i : ℤ} (hi : i < UInt32.size) : floorAtZero? i = some (clamp i) := by
  have hmost : unsigned32.most = UInt32.size - 1 := rfl
  have hsize : UInt32.size = 2 ^ 32 := rfl
  rw [floorAtZero?, count?_eq (le_refl 0) (by omega), clamp]
  congr 1
  omega

theorem total_eq (b : Breakdown) : b.total = b.readability + b.maintainability + b.robustness +
    b.performance + b.security + b.testability + b.consistency := by
  simp only [total, entries, List.map_cons, List.map_nil, List.foldr_cons, List.foldr_nil]
  omega

/-- The three sub-scores that only markers decide on are never zero. -/
theorem marked_mem (s : Signals) :
    19 ≤ (ofSignals s).robustness + (ofSignals s).testability + (ofSignals s).consistency ∧
      (ofSignals s).robustness + (ofSignals s).testability + (ofSignals s).consistency ≤ 35 := by
  dsimp only [ofSignals]
  cases s.hasErrorHandling <;> cases s.hasTests <;> cases s.trailingNewline <;> decide

section

variable {s : Signals} (h : s.Small)

include h

/-- No count is too large to be read as a signed word. -/
theorem ofSignals_of_small : ofSignals s =
    { readability := clamp (20 - longLinePenalty s - commentGapPenalty s)
      maintainability := clamp (20 - 2 * (s.loops : ℤ) + s.functions)
      robustness := if s.hasErrorHandling then 15 else 8
      performance := clamp (15 - (s.lines / 200 : Nat) : ℤ)
      security := clamp (10 - 2 * (s.dangerousCalls : ℤ))
      testability := if s.hasTests then 10 else 4
      consistency := if s.trailingNewline then 10 else 7 } := by
  have hlines := h.lines_le
  have hloops := h.loops_le
  have hcalls := h.dangerousCalls_le
  have hfunctions := h.functions_le
  have hsize : UInt64.size = 2 ^ 64 := rfl
  rw [ofSignals, signedCount_of_lt (by omega), signedCount_of_lt (by omega),
    signedCount_of_lt (by omega), signedCount_of_lt (by omega)]

theorem ofSignals?_eq : ofSignals? s = some (ofSignals s) := by
  have hlong := longLinePenalty_mem h
  have hgap := commentGapPenalty_mem h
  have hfunctions := h.functions_le
  have hsize : UInt32.size = 2 ^ 32 := rfl
  simp only [ofSignals?, readability?_eq h, maintainability?_eq h, performance?_eq h, security?_eq h,
    Option.bind_eq_bind, Option.bind_some]
  rw [floorAtZero?_eq (by omega), Option.bind_some, floorAtZero?_eq (by omega), Option.bind_some,
    floorAtZero?_eq (by omega), Option.bind_some, floorAtZero?_eq (by omega), Option.bind_some,
    ofSignals_of_small h]
  rfl

theorem cast_maintainability :
    ((ofSignals s).maintainability : ℤ) = max 0 (20 - 2 * (s.loops : ℤ) + s.functions) := by
  have hfunctions := h.functions_le
  have hsize : UInt32.size = 2 ^ 32 := rfl
  rw [ofSignals_of_small h]
  exact cast_clamp (by omega)

theorem cast_performance : ((ofSignals s).performance : ℤ) = max 0 (15 - (s.lines : ℤ) / 200) := by
  have hsize : UInt32.size = 2 ^ 32 := rfl
  rw [ofSignals_of_small h]
  exact cast_clamp (by omega)

theorem cast_security :
    ((ofSignals s).security : ℤ) = max 0 (10 - 2 * (s.dangerousCalls : ℤ)) := by
  have hsize : UInt32.size = 2 ^ 32 := rfl
  rw [ofSignals_of_small h]
  exact cast_clamp (by omega)

theorem readability_le : (ofSignals s).readability ≤ 20 := by
  have hlong := longLinePenalty_mem h
  have hgap := commentGapPenalty_mem h
  rw [ofSignals_of_small h]
  show clamp _ ≤ 20
  unfold clamp
  omega

theorem total_mem : 19 ≤ (ofSignals s).total ∧ (ofSignals s).total ≤ 100 + s.functions := by
  have hmarked := marked_mem s
  have hreadability := readability_le h
  have hmaintainability := cast_maintainability h
  have hperformance := cast_performance h
  have hsecurity := cast_security h
  rw [total_eq]
  omega

theorem total?_eq : (ofSignals s).total? = some (ofSignals s).total := by
  have htotal := (total_mem h).2
  have hfunctions := h.functions_le
  have hmost : unsigned32.most = UInt32.size - 1 := rfl
  have hsize : UInt32.size = 2 ^ 32 := rfl
  refine sum?_eq (le_refl 0) ?_
  show ((ofSignals s).total : ℤ) ≤ _
  omega

end

end Breakdown

/-! ## Scores -/

/-- The suggestions, where the least number of comments must not be infinite. -/
def Suggestion.ofSignals? (s : Signals) : Option (List Suggestion) := do
  let _ ← (mul (.ofNat s.lines) minCommentRatio).finite?
  return ofSignals s

namespace Score

def ofSignals? (language : Language) (signals : Signals) : Option Score := do
  let breakdown ← Breakdown.ofSignals? signals
  let total ← breakdown.total?
  let suggestions ← Suggestion.ofSignals? signals
  return {
    language
    total
    shitIndex := 100 - total
    breakdown
    suggestions
    signals }

def ofText? (text : Text) (hint : LanguageHint) (fileName : Option Path) : Option Score := do
  let signals ← Signals.ofText? text
  ofSignals? (hint.choose text fileName) signals

theorem ofSignals?_eq {s : Signals} (h : s.Small) (language : Language) :
    ofSignals? language s = some (ofSignals language s) := by
  have hlines := h.lines_le
  have hroom : 2 ^ 33 ≤ hiddenBit := by decide
  have hleast : (mul (.ofNat s.lines) Suggestion.minCommentRatio).IsMagnitude :=
    (faithful_mul_twentieth (by omega)).isMagnitude
  have hsuggestions : Suggestion.ofSignals? s = some (Suggestion.ofSignals s) := by
    rw [Suggestion.ofSignals?, hleast.finite?_eq]
    rfl
  simp only [ofSignals?, Breakdown.ofSignals?_eq h, Breakdown.total?_eq h, hsuggestions,
    Option.bind_eq_bind, Option.bind_some]
  rfl

/-- For texts of no more than 2 ^ 33 bytes nothing overflows: the score with words is the score, and
that is what the integers say it is. -/
theorem ofText_within_words (text : Text) (hint : LanguageHint) (fileName : Option Path)
    (hsize : (Utf8.encode text).length ≤ Nat.pow 2 33) :
    let score := ofText text hint fileName
    let b := score.breakdown
    let functions : ℤ := score.signals.functions
    let loops : ℤ := score.signals.loops
    let calls : ℤ := score.signals.dangerousCalls
    let lines : ℤ := score.signals.lines
    ofText? text hint fileName = some score ∧
      (b.maintainability : ℤ) = max 0 (20 - 2 * loops + functions) ∧
      (b.performance : ℤ) = max 0 (15 - lines / 200) ∧
      (b.security : ℤ) = max 0 (10 - 2 * calls) ∧
      b.readability ≤ 20 ∧
      19 ≤ score.total ∧ score.total ≤ 100 + functions ∧
      score.total = b.readability + b.maintainability + b.robustness + b.performance + b.security +
        b.testability + b.consistency ∧
      score.shitIndex + score.total = max 100 score.total ∧ score.shitIndex ≤ 81 := by
  intro score b functions loops calls lines
  have hsmall : (Signals.ofText text).Small := Signals.small_ofText hsize
  have hrun : ofText? text hint fileName = some score := by
    rw [ofText?, Signals.ofText?_eq (hsize.trans (by decide)), Option.bind_eq_bind, Option.bind_some]
    exact ofSignals?_eq hsmall _
  obtain ⟨hleast, hmost⟩ := Breakdown.total_mem hsmall
  refine ⟨hrun, Breakdown.cast_maintainability hsmall, Breakdown.cast_performance hsmall,
    Breakdown.cast_security hsmall, Breakdown.readability_le hsmall, hleast, ?_,
    Breakdown.total_eq b, ?_, ?_⟩
  · show (score.total : ℤ) ≤ 100 + (score.signals.functions : ℤ)
    exact_mod_cast hmost
  · show 100 - score.total + score.total = _
    omega
  · show 100 - b.total ≤ 81
    have hleast : 19 ≤ b.total := hleast
    omega

/-- One declaration, one loop and two risky calls. -/
theorem ofText_within_words_calls :
    let text : Text := "def f(xs):\n    for x in xs:\n        exec(md5(x))\n".toList
    let score := ofText text .auto none
    let b := score.breakdown
    let functions : ℤ := score.signals.functions
    let loops : ℤ := score.signals.loops
    let calls : ℤ := score.signals.dangerousCalls
    let lines : ℤ := score.signals.lines
    (Utf8.encode text).length ≤ Nat.pow 2 33 ∧ ofText? text .auto none = some score ∧
      (b.maintainability : ℤ) = max 0 (20 - 2 * loops + functions) ∧
      (b.performance : ℤ) = max 0 (15 - lines / 200) ∧
      (b.security : ℤ) = max 0 (10 - 2 * calls) ∧
      b.readability ≤ 20 ∧
      19 ≤ score.total ∧ score.total ≤ 100 + functions ∧
      score.total = b.readability + b.maintainability + b.robustness + b.performance + b.security +
        b.testability + b.consistency ∧
      score.shitIndex + score.total = max 100 score.total ∧ score.shitIndex ≤ 81 := by
  intro text score b functions loops calls lines
  have hsize : (Utf8.encode text).length ≤ Nat.pow 2 33 := by decide +kernel
  exact ⟨hsize, ofText_within_words text .auto none hsize⟩

end Score

end SourceGrade
