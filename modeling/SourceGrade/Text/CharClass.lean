import SourceGrade.Text.Basic

/-!
# Character classes

A class of characters is a list of inclusive ranges of code points. The operations on classes answer
with ascending ranges that do not meet. Main statements: `hasCode_ofRanges`, `hasCode_complement` and
`hasCode_intersection` say which code points the answers have.
-/

namespace SourceGrade

abbrev CharClass := List (Nat × Nat)

namespace CharClass

def hasCode (ranges : CharClass) (n : Nat) : Bool :=
  ranges.any fun (low, high) => low ≤ n && n ≤ high

def has (ranges : CharClass) (c : Char) : Bool := ranges.hasCode c.toNat

def single (c : Char) : CharClass := [(c.toNat, c.toNat)]

theorem hasCode_iff {ranges : CharClass} {n : Nat} :
    ranges.hasCode n ↔ ∃ r ∈ ranges, r.1 ≤ n ∧ n ≤ r.2 := by
  simp [hasCode]

theorem hasCode_cons {low high : Nat} {ranges : CharClass} {n : Nat} :
    hasCode ((low, high) :: ranges) n ↔ low ≤ n ∧ n ≤ high ∨ ranges.hasCode n := by
  simp [hasCode]

theorem hasCode_nil {n : Nat} : hasCode [] n = false := rfl

theorem hasCode_append {a b : CharClass} {n : Nat} :
    hasCode (a ++ b) n ↔ a.hasCode n ∨ b.hasCode n := by
  simp [hasCode]

/-! ## Union -/

/-- The code points from `low` to `high` and those of ascending ranges that do not begin below. -/
def absorb (low high : Nat) : CharClass → CharClass
  | [] => [(low, high)]
  | (low', high') :: rest =>
    if low' ≤ high + 1 then absorb low (max high high') rest
    else (low, high) :: absorb low' high' rest

/-- The ranges in ascending order of their first code points. -/
def inOrder (ranges : CharClass) : CharClass := ranges.mergeSort fun a b => decide (a.1 ≤ b.1)

/-- The class with the code points of arbitrary ranges. -/
def ofRanges (ranges : List (Nat × Nat)) : CharClass :=
  match inOrder ranges with
  | [] => []
  | (low, high) :: rest => absorb low high rest

def union (a b : CharClass) : CharClass := ofRanges (a ++ b)

theorem hasCode_inOrder {ranges : CharClass} {n : Nat} :
    ranges.inOrder.hasCode n ↔ ranges.hasCode n := by
  simp [hasCode_iff, inOrder, List.mem_mergeSort]

theorem pairwise_inOrder (ranges : CharClass) : ranges.inOrder.Pairwise fun a b => a.1 ≤ b.1 := by
  have := @List.pairwise_mergeSort _ (fun a b : Nat × Nat => decide (a.1 ≤ b.1))
    (by simp; omega) (by simp; omega) ranges
  simpa [inOrder] using this

theorem hasCode_absorb {ranges : CharClass} {low high n : Nat}
    (sorted : ((low, high) :: ranges).Pairwise fun a b => a.1 ≤ b.1) :
    (absorb low high ranges).hasCode n ↔ low ≤ n ∧ n ≤ high ∨ ranges.hasCode n := by
  induction ranges generalizing low high with
  | nil => simp [absorb, hasCode]
  | cons r rest ih =>
    obtain ⟨low', high'⟩ := r
    obtain ⟨first, behind⟩ := List.pairwise_cons.1 sorted
    have order : low ≤ low' := first (low', high') (by simp)
    rw [absorb]
    split
    · have sorted' : ((low, max high high') :: rest).Pairwise fun a b => a.1 ≤ b.1 :=
        List.pairwise_cons.2 ⟨fun r hr => first r (by simp [hr]), behind.tail⟩
      rw [ih sorted', hasCode_cons]
      by_cases hr : hasCode rest n <;> simp [hr]
      omega
    · rw [hasCode_cons, ih behind, hasCode_cons]

/-- Joining ranges neither loses a code point nor adds one. -/
theorem hasCode_ofRanges {ranges : List (Nat × Nat)} {n : Nat} :
    (ofRanges ranges).hasCode n ↔ hasCode ranges n := by
  have sorted := pairwise_inOrder ranges
  have same : hasCode ranges n ↔ (inOrder ranges).hasCode n := hasCode_inOrder.symm
  rw [same, ofRanges]
  cases h : inOrder ranges with
  | nil => rfl
  | cons r rest =>
    rw [h] at sorted
    rw [hasCode_absorb sorted, hasCode_cons]

theorem hasCode_union {a b : CharClass} {n : Nat} :
    (a.union b).hasCode n ↔ a.hasCode n ∨ b.hasCode n := by
  rw [union, hasCode_ofRanges, hasCode_append]

/-! ## Complement -/

/-- The code points from `first` to `last` that ascending ranges do not have. -/
def gaps (first last : Nat) : CharClass → CharClass
  | [] => if first ≤ last then [(first, last)] else []
  | (low, high) :: rest =>
    (if first < low ∧ first ≤ last then [(first, min (low - 1) last)] else []) ++
      gaps (max first (high + 1)) last rest

def lastCodePoint : Nat := 0x10FFFF

/-- All code points up to `last` that a class does not have. -/
def complement (ranges : CharClass) (last : Nat := lastCodePoint) : CharClass :=
  gaps 0 last ranges.inOrder

theorem hasCode_gaps {ranges : CharClass} {first last n : Nat}
    (sorted : ranges.Pairwise fun a b => a.1 ≤ b.1) :
    (gaps first last ranges).hasCode n ↔ first ≤ n ∧ n ≤ last ∧ ¬ranges.hasCode n := by
  induction ranges generalizing first with
  | nil =>
    rw [gaps]
    split
    next =>
      rw [hasCode_cons, hasCode_nil]
      simp
    next empty =>
      rw [hasCode_nil]
      simp only [Bool.false_eq_true, not_false_eq_true, and_true, false_iff]
      omega
  | cons r rest ih =>
    obtain ⟨low, high⟩ := r
    obtain ⟨least, behind⟩ := List.pairwise_cons.1 sorted
    have above : hasCode rest n → low ≤ n := by
      rw [hasCode_iff]
      rintro ⟨r, hr, begins, -⟩
      have : low ≤ r.1 := least r hr
      omega
    rw [gaps, hasCode_append, ih behind, hasCode_cons]
    by_cases gap : first < low ∧ first ≤ last
    · have between : hasCode [(first, min (low - 1) last)] n ↔ first ≤ n ∧ n < low ∧ n ≤ last := by
        simp only [hasCode_cons, hasCode_nil, Bool.false_eq_true, or_false]
        omega
      rw [if_pos gap, between]
      by_cases hr : hasCode rest n
      · have := above hr
        simp only [hr, not_true_eq_false, and_false, or_true, or_false, iff_false]
        omega
      · simp only [hr, Bool.false_eq_true, not_false_eq_true, and_true, or_false]
        omega
    · rw [if_neg gap, hasCode_nil]
      by_cases hr : hasCode rest n
      · simp [hr]
      · simp only [hr, Bool.false_eq_true, not_false_eq_true, and_true, or_false, false_or]
        omega

theorem hasCode_complement {ranges : CharClass} {last n : Nat} :
    (ranges.complement last).hasCode n ↔ n ≤ last ∧ ¬ranges.hasCode n := by
  rw [complement, hasCode_gaps (pairwise_inOrder ranges), hasCode_inOrder]
  simp

/-! ## Other operations -/

def intersection (a b : CharClass) : CharClass := (a.complement.union b.complement).complement

def difference (a b : CharClass) : CharClass := a.intersection b.complement

def symmetricDifference (a b : CharClass) : CharClass := (a.union b).difference (a.intersection b)

theorem hasCode_intersection {a b : CharClass} {n : Nat} :
    (a.intersection b).hasCode n ↔ n ≤ lastCodePoint ∧ a.hasCode n ∧ b.hasCode n := by
  simp only [intersection, hasCode_complement, hasCode_union]
  by_cases ha : a.hasCode n <;> by_cases hb : b.hasCode n <;> simp [ha, hb]

/-- Whether all code points of a class are below 128. -/
def isAscii (ranges : CharClass) : Bool := ranges.all (·.2 < 0x80)

end CharClass

end SourceGrade
