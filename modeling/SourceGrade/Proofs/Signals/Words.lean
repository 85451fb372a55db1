import Mathlib.Algebra.Group.Action.Defs
import Mathlib.Algebra.Order.BigOperators.Group.List
import Mathlib.Algebra.Order.Ring.Nat
import SourceGrade.Proofs.Breakdown.Penalty
import SourceGrade.Proofs.Signals.Roundtrip
import SourceGrade.Proofs.Text.Cut

/-!
# Signals in machine words

The signals of a text computed with words of 64 bits. Such a computation has no result where a number
does not fit. For texts of up to 2 ^ 40 bytes all numbers fit, and the signals are the same
(`Signals.ofText?_eq`).
-/

namespace SourceGrade

/-! ## Words -/

/-- The integers that a kind of machine words holds. -/
structure WordRange where
  least : ℤ
  most : ℤ

namespace WordRange

def signed64 : WordRange := ⟨-Binary64.signBit, Binary64.signBit - 1⟩

def unsigned64 : WordRange := ⟨0, UInt64.size - 1⟩

def unsigned32 : WordRange := ⟨0, UInt32.size - 1⟩

variable (range : WordRange)

/-- The integer as a word. There is none for an integer beyond the ends. -/
def hold? (i : ℤ) : Option ℤ := if range.least ≤ i ∧ i ≤ range.most then some i else none

def count? (n : Nat) : Option Nat := (range.hold? n).map Int.toNat

/-- The sum from the left, every part of which has to fit. -/
def sum? (list : List Nat) : Option Nat := list.foldlM (fun sum n => range.count? (sum + n)) 0

variable {range}

theorem hold?_eq {i : ℤ} (hlow : range.least ≤ i) (hhigh : i ≤ range.most) : range.hold? i = some i :=
  if_pos ⟨hlow, hhigh⟩

theorem eq_of_hold? {i word : ℤ} (h : range.hold? i = some word) : word = i := by
  unfold hold? at h
  split at h
  · exact (Option.some.inj h).symm
  · cases h

theorem count?_eq {n : Nat} (hlow : range.least ≤ 0) (hhigh : n ≤ range.most) :
    range.count? n = some n := by
  rw [count?, hold?_eq (by omega) hhigh]
  rfl

theorem unsigned64_count?_eq {n : Nat} (h : n < UInt64.size) : unsigned64.count? n = some n := by
  refine count?_eq (le_refl 0) ?_
  have hmost : unsigned64.most = UInt64.size - 1 := rfl
  omega

theorem foldlM_count?_eq (hlow : range.least ≤ 0) (list : List Nat) {start : Nat}
    (hhigh : (start + list.sum : Nat) ≤ range.most) :
    list.foldlM (fun sum n => range.count? (sum + n)) start = some (start + list.sum) := by
  induction list generalizing start with
  | nil => rfl
  | cons n rest ih =>
    rw [List.sum_cons, ← Nat.add_assoc] at hhigh ⊢
    rw [List.foldlM_cons, count?_eq hlow (by omega)]
    exact ih hhigh

theorem sum?_eq (hlow : range.least ≤ 0) {list : List Nat} (hhigh : (list.sum : ℤ) ≤ range.most) :
    range.sum? list = some list.sum := by
  have h := foldlM_count?_eq hlow list (by rwa [Nat.zero_add] : ((0 + list.sum : Nat) : ℤ) ≤ _)
  rwa [Nat.zero_add] at h

/-- A part that does not fit leaves no sum. -/
example : unsigned32.sum? [4294967295, 1, 2] = none := by decide

end WordRange

/-! ## Lines -/

open WordRange

/-- The ranges of bytes of the lines, where every position behind a character is a word. -/
def Text.rangesFrom? (start index : Nat) : Text → Option (List (Nat × Nat))
  | [] => some (if start < index then [(start, index)] else [])
  | '\r' :: '\n' :: rest => do
    let next ← unsigned64.count? (index + 1)
    let next ← unsigned64.count? (next + 1)
    return (start, index) :: (← rangesFrom? next next rest)
  | c :: rest => do
    let next ← unsigned64.count? (index + c.utf8Size)
    if isBreak c then return (start, index) :: (← rangesFrom? next next rest)
    else rangesFrom? start next rest

theorem Text.rangesFrom?_eq {start index : Nat} {text : Text}
    (h : index + byteLength text < UInt64.size) :
    rangesFrom? start index text = some (rangesFrom start index text) := by
  fun_induction rangesFrom start index text with
  | case1 start index hlt => rw [rangesFrom?, if_pos hlt]
  | case2 start index hle => rw [rangesFrom?, if_neg hle]
  | case3 start index rest ih =>
    -- Both characters of the break are of one byte.
    rw [byteLength_cons, byteLength_cons] at h
    have hindex : index + 2 + byteLength rest < UInt64.size := by
      rw [← Nat.add_assoc, ← Nat.add_assoc] at h
      exact h
    rw [rangesFrom?, unsigned64_count?_eq (by omega), Option.bind_eq_bind, Option.bind_some,
      unsigned64_count?_eq (by omega), Option.bind_some, ih hindex]
    rfl
  | case4 start index c rest hcrlf hbreak ih =>
    rw [byteLength_cons, ← Nat.add_assoc] at h
    rw [rangesFrom?, unsigned64_count?_eq (by omega), Option.bind_eq_bind, Option.bind_some,
      if_pos hbreak, ih h]
    · rfl
    · exact hcrlf
  | case5 start index c rest hcrlf hchar ih =>
    rw [byteLength_cons, ← Nat.add_assoc] at h
    rw [rangesFrom?, unsigned64_count?_eq (by omega), Option.bind_eq_bind, Option.bind_some,
      if_neg hchar, ih h]
    exact hcrlf

/-- The slices of a text at the ranges of its lines. -/
def Text.lines? (text : Text) : Option (List Text) := do
  let ranges ← rangesFrom? 0 0 text
  ranges.mapM text.slice?

theorem Text.lines?_eq {text : Text} (h : byteLength text < UInt64.size) :
    text.lines? = some text.lines := by
  have hslices : (rangesFrom 0 0 text).map text.slice? = text.lines.map some :=
    slice?_rangesFrom [] [] text
  rw [lines?, rangesFrom?_eq (by omega), Option.bind_eq_bind, Option.bind_some]
  calc (rangesFrom 0 0 text).mapM text.slice?
    _ = ((rangesFrom 0 0 text).map text.slice?).mapM id :=
      (List.mapM_map (f := text.slice?) (g := id)).symm
    _ = text.lines.mapM some := by
      rw [hslices]
      exact List.mapM_map (f := some) (g := id)
    _ = some text.lines := by
      rw [mapM_eq_some_map (f := some) (g := id) fun _ _ => rfl, List.map_id]

/-! ## Counts -/

/-- Matches do not overlap, so that they hold no more characters than the text. -/
theorem Pattern.sum_length_scan_add_le (p : Pattern) (before : Option Char) {covered : Nat}
    {text : Text} (hcovered : covered ≤ text.length) :
    ((p.scan before covered text).map List.length).sum + covered ≤ text.length := by
  -- What is left of an earlier match is still in front.
  fun_induction p.scan before covered text with
  | case1 => exact (Nat.zero_add _).le.trans hcovered
  | case2 before c rest covered ih => exact Nat.succ_le_succ (ih (Nat.le_of_succ_le_succ hcovered))
  | case3 before c rest literal hmatch ih =>
    have hlength := (matchAt_eq_some hmatch).2.length_le
    rw [List.length_cons] at hlength ⊢
    rw [List.map_cons, List.sum_cons]
    have hrest := ih (by omega)
    omega
  | case4 before c rest _ ih => exact Nat.le_succ_of_le (ih (Nat.zero_le _))

/-- The longer the literals are at least, the fewer matches there are. -/
theorem Pattern.length_findAll_mul_le {p : Pattern} {least : Nat}
    (hleast : ∀ literal ∈ p.literals, least ≤ literal.length) (text : Text) :
    (p.findAll text).length * least ≤ text.length := by
  have hmatches : ∀ n ∈ (p.findAll text).map List.length, least ≤ n := by
    intro n hn
    obtain ⟨found, hfound, rfl⟩ := List.mem_map.1 hn
    exact hleast found (mem_literals_of_mem_scan hfound)
  have hsum := List.card_nsmul_le_sum _ least hmatches
  rw [List.length_map, smul_eq_mul] at hsum
  exact hsum.trans (p.sum_length_scan_add_le none (Nat.zero_le _))

/-! ## Doubles -/

namespace Binary64

/-- The double, unless it is infinite or no number. -/
def finite? (x : Binary64) : Option Binary64 :=
  match x.value with
  | .finite .. => some x
  | _ => none

/-- The integer part, if it is a signed word. -/
def truncate? (x : Binary64) : Option ℤ :=
  match x.value with
  | .finite negative m e =>
    let (num, den) := ratio m e
    signed64.hold? (signed negative (num / den))
  | _ => none

variable {x y : Binary64}

theorem IsMagnitude.finite?_eq (hx : x.IsMagnitude) : x.finite? = some x := by
  obtain ⟨m, e, hvalue, -⟩ := hx.exists_value_eq
  rw [finite?, hvalue]

/-- An integer part that is not the last word of the range has not been cut down to it. -/
theorem IsMagnitude.truncate?_eq (hx : x.IsMagnitude) (h : x.truncate < signBit - 1) :
    x.truncate? = some x.truncate := by
  obtain ⟨m, e, hvalue, -⟩ := hx.exists_value_eq
  rw [truncate, hvalue] at h ⊢
  rw [truncate?, hvalue]
  dsimp only [ratio] at h ⊢
  have hnonneg : 0 ≤ signed false (m * powerOf 2 e / powerOf 2 (-e)) := Int.natCast_nonneg _
  generalize signed false (m * powerOf 2 e / powerOf 2 (-e)) = i at *
  have hrange : signed64.least = -signBit ∧ signed64.most = signBit - 1 := ⟨rfl, rfl⟩
  rw [saturate] at h ⊢
  rw [hold?_eq (by omega) (by omega)]
  congr 1
  omega

end Binary64

/-! ## Signals -/

namespace Signals

def ofText? (text : Text) : Option Signals := do
  let lines ← text.lines?
  let count ← unsigned64.count? lines.length
  let lengths ← lines.mapM fun line => unsigned64.count? line.trimEnd.length
  let total ← unsigned64.sum? lengths
  let mean ← (meanLength total count).finite?
  let comments ← unsigned64.count? (lines.countP isComment)
  let dangerous := dangerousCall.findAll text
  let functions ← unsigned64.count? (declaration.findAll text).length
  let loops ← unsigned64.count? (loop.findAll text).length
  let dangerousCalls ← unsigned64.count? dangerous.length
  return {
    lines := count
    averageLength := mean
    commentLines := comments
    functions
    loops
    dangerousCalls
    dangerousMatches := dangerous
    hasTests := testMarkers.any text.contains
    hasErrorHandling := errorHandlingMarkers.any text.contains
    trailingNewline := text.getLast? = some '\n' }

theorem ofText?_eq {text : Text} (h : (Utf8.encode text).length ≤ 2 ^ 40) :
    ofText? text = some (ofText text) := by
  have hsize : 2 ^ 40 < UInt64.size := by decide
  have hlength := (Utf8.length_le_length_encode text).trans h
  have hlines := text.length_lines_le_length
  have htotal := totalLength_lines_le text
  have hlengths : text.lines.mapM (fun line => unsigned64.count? line.trimEnd.length) =
      some (text.lines.map fun line => line.trimEnd.length) := by
    refine mapM_eq_some_map fun line hline => unsigned64_count?_eq ?_
    have hpart : line.trimEnd.length ≤ totalLength text.lines :=
      List.single_le_sum (fun n _ => Nat.zero_le n) _ (List.mem_map_of_mem hline)
    omega
  have hmean := faithful_meanLength (htotal.trans hlength) (hlines.trans hlength)
  have hcomments : text.lines.countP isComment ≤ text.lines.length := List.countP_le_length
  have hfunctions := declaration.length_findAll_le_length text
  have hloops := loop.length_findAll_le_length text
  have hcalls := dangerousCall.length_findAll_le_length text
  have hsum : unsigned64.sum? (text.lines.map fun line => line.trimEnd.length) =
      some (totalLength text.lines) := by
    have hmost : unsigned64.most = UInt64.size - 1 := rfl
    refine sum?_eq (le_refl 0) ?_
    show (totalLength text.lines : ℤ) ≤ _
    omega
  simp only [ofText?, Text.lines?_eq (h.trans_lt hsize), hlengths, hsum,
    hmean.isMagnitude.finite?_eq,
    unsigned64_count?_eq (by omega : text.lines.length < UInt64.size),
    unsigned64_count?_eq (by omega : text.lines.countP isComment < UInt64.size),
    unsigned64_count?_eq (by omega : (declaration.findAll text).length < UInt64.size),
    unsigned64_count?_eq (by omega : (loop.findAll text).length < UInt64.size),
    unsigned64_count?_eq (by omega : (dangerousCall.findAll text).length < UInt64.size),
    Option.bind_eq_bind, Option.bind_some]
  rfl

end Signals

end SourceGrade
