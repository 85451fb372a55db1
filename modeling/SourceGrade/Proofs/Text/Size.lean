import SourceGrade.Proofs.Text.Seam
import SourceGrade.Text.Utf8

/-!
# Sizes

What is counted in a text is bounded by the number of its characters, and that by the number of its
bytes.
-/

namespace SourceGrade

theorem Utf8.length_le_length_encode (text : Text) : text.length ≤ (encode text).length := by
  induction text with
  | nil => exact Nat.le_refl _
  | cons c rest ih =>
    have hc : 0 < (String.utf8EncodeChar c).length :=
      String.length_utf8EncodeChar c ▸ c.utf8Size_pos
    rw [encode, List.flatMap_cons, List.length_append, List.length_cons, ← encode]
    omega

theorem Text.length_linesFrom_le_length (read text : Text) :
    (linesFrom read text).length ≤ text.length + if read.isEmpty then 0 else 1 := by
  fun_induction linesFrom read text with
  | case1 read hempty => exact Nat.zero_le _
  | case2 read hempty => rw [if_neg hempty]; exact Nat.le_refl _
  | case3 read rest ih | case4 read c rest _ _ ih =>
    simp only [List.isEmpty_nil, if_true, List.length_cons] at ih ⊢
    omega
  | case5 read c rest _ _ ih =>
    simp only [List.isEmpty_cons, List.length_cons, if_false, Bool.false_eq_true] at ih ⊢
    omega

theorem Text.length_lines_le_length (text : Text) : text.lines.length ≤ text.length :=
  length_linesFrom_le_length [] text

theorem Pattern.length_scan_le_length (p : Pattern) (before : Option Char) (covered : Nat)
    (text : Text) : (p.scan before covered text).length ≤ text.length := by
  fun_induction p.scan before covered text with
  | case1 => exact Nat.le_refl _
  | case2 before c rest covered ih => exact Nat.le_succ_of_le ih
  | case3 before c rest literal _ ih => exact Nat.succ_le_succ ih
  | case4 before c rest _ ih => exact Nat.le_succ_of_le ih

theorem Pattern.length_findAll_le_length (p : Pattern) (text : Text) :
    (p.findAll text).length ≤ text.length :=
  p.length_scan_le_length none 0 text

end SourceGrade
