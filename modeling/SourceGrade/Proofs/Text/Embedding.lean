import SourceGrade.Proofs.Text.Seam

/-!
# Embedded texts

What a text is put into can only add to it, wherever it is cut: the text keeps its literals, its
matches of patterns without a condition on what surrounds them, and at least its number of lines.
-/

namespace SourceGrade

theorem filter_sublist_filter {q q' : α → Bool} (h : ∀ a, q a = true → q' a = true)
    (list : List α) : (list.filter q).Sublist (list.filter q') := by
  have hboth : list.filter q = (list.filter q').filter q := by
    rw [List.filter_filter]
    refine List.filter_congr fun a _ => ?_
    cases hq : q a with
    | false => rfl
    | true => exact (h a hq).symm
  rw [hboth]
  exact List.filter_sublist

namespace Text

theorem contains_of_isInfix {text whole literal : Text} (hpart : text <:+: whole)
    (hcontains : text.contains literal = true) : whole.contains literal = true := by
  rw [contains_iff_isInfix] at hcontains ⊢
  exact hcontains.trans hpart

theorem any_contains_of_isInfix {text whole : Text} {literals : List Text} (hpart : text <:+: whole)
    (hany : literals.any text.contains = true) : literals.any whole.contains = true := by
  rw [List.any_eq_true] at hany ⊢
  rcases hany with ⟨literal, hmem, hcontains⟩
  exact ⟨literal, hmem, contains_of_isInfix hpart hcontains⟩

/-! ## Lines -/

theorem linesFrom_ne_nil {read : Text} (hread : read ≠ []) (text : Text) :
    linesFrom read text ≠ [] := by
  fun_induction linesFrom read text with
  | case1 read hempty => exact absurd (List.isEmpty_iff.1 hempty) hread
  | case2 | case3 | case4 => exact List.cons_ne_nil _ _
  | case5 read c rest _ _ ih => exact ih (List.cons_ne_nil c read)

/-- The characters read before do not change the number of lines, unless they make the only one. -/
theorem length_linesFrom_le {read read' : Text} (hread : read ≠ [] → read' ≠ []) (text : Text) :
    (linesFrom read text).length ≤ (linesFrom read' text).length := by
  fun_induction linesFrom read text generalizing read' with
  | case1 => exact Nat.zero_le _
  | case2 read hempty =>
    have hne : read ≠ [] := fun h => hempty (List.isEmpty_iff.2 h)
    exact List.length_pos_iff.2 (linesFrom_ne_nil (hread hne) [])
  | case3 read rest =>
    rw [linesFrom_crlf, List.length_cons, List.length_cons]
    exact Nat.le_refl _
  | case4 read c rest hcrlf hbreak =>
    rw [linesFrom_break read' hbreak (not_crlf hcrlf), List.length_cons, List.length_cons]
    exact Nat.le_refl _
  | case5 read c rest _ hchar ih =>
    rw [linesFrom_char read' rest (Bool.eq_false_iff.2 hchar)]
    exact ih fun _ => List.cons_ne_nil c read'

theorem length_linesFrom_le_append (read text behind : Text) :
    (linesFrom read text).length ≤ (linesFrom read (text ++ behind)).length := by
  fun_induction linesFrom read text with
  | case1 => exact Nat.zero_le _
  | case2 read hempty =>
    have hne : read ≠ [] := fun h => hempty (List.isEmpty_iff.2 h)
    exact List.length_pos_iff.2 (linesFrom_ne_nil hne behind)
  | case3 read rest ih =>
    rw [List.cons_append, List.cons_append, linesFrom_crlf, List.length_cons, List.length_cons]
    exact Nat.succ_le_succ ih
  | case4 read c rest hcrlf hbreak ih =>
    by_cases hseam : c = '\r' ∧ (rest ++ behind).head? = some '\n'
    · -- The break goes on behind the text, so that it was the end of its last line.
      rcases hseam with ⟨rfl, hhead⟩
      cases rest with
      | nil =>
        rcases List.head?_eq_some_iff.1 hhead with ⟨tail, htail⟩
        rw [List.nil_append] at htail
        rw [htail, List.singleton_append, linesFrom_crlf, List.length_cons, List.length_cons]
        exact Nat.succ_le_succ (Nat.zero_le _)
      | cons d rest => exact absurd (congrArg (· :: rest) (Option.some.inj hhead)) (hcrlf rest rfl)
    · rw [List.cons_append, linesFrom_break read hbreak hseam, List.length_cons, List.length_cons]
      exact Nat.succ_le_succ ih
  | case5 read c rest _ hchar ih =>
    rw [List.cons_append, linesFrom_char read _ (Bool.eq_false_iff.2 hchar)]
    exact ih

theorem length_lines_le_cons (c : Char) (text : Text) :
    text.lines.length ≤ (lines (c :: text)).length := by
  rw [lines, lines]
  cases hbreak : isBreak c with
  | false =>
    rw [linesFrom_char [] text hbreak]
    exact length_linesFrom_le (fun h => absurd rfl h) text
  | true =>
    by_cases hcrlf : c = '\r' ∧ text.head? = some '\n'
    · -- The line feed was a break of its own before.
      rcases hcrlf with ⟨rfl, hhead⟩
      rcases List.head?_eq_some_iff.1 hhead with ⟨rest, rfl⟩
      have hlone : ¬ ('\n' = '\r' ∧ rest.head? = some '\n') := fun h => absurd h.1 (by decide)
      have hlines : linesFrom [] ('\r' :: '\n' :: rest) = linesFrom [] ('\n' :: rest) := by
        rw [linesFrom_crlf, linesFrom_break [] rfl hlone]
      exact Nat.le_of_eq (congrArg List.length hlines.symm)
    · rw [linesFrom_break [] hbreak hcrlf, List.length_cons]
      exact Nat.le_succ _

theorem length_lines_le_append_left (front text : Text) :
    text.lines.length ≤ (front ++ text).lines.length := by
  induction front with
  | nil => exact Nat.le_refl _
  | cons c front ih => exact Nat.le_trans ih (length_lines_le_cons c (front ++ text))

theorem length_lines_le_of_isInfix {text whole : Text} (hpart : text <:+: whole) :
    text.lines.length ≤ whole.lines.length := by
  rcases hpart with ⟨front, behind, rfl⟩
  exact Nat.le_trans (length_lines_le_append_left front text)
    (length_linesFrom_le_append [] (front ++ text) behind)

end Text

namespace Pattern

variable {p : Pattern}

theorem everyMatch_sublist_append (hseparate : p.Separate) (hanywhere : p.atBoundary = false)
    (before : Option Char) (text behind : Text) :
    (p.everyMatch before text).Sublist (p.everyMatch before (text ++ behind)) := by
  induction text generalizing before with
  | nil => exact List.nil_sublist _
  | cons c rest ih =>
    rw [List.cons_append, everyMatch, everyMatch, toList_matchAt hseparate hanywhere,
      toList_matchAt hseparate hanywhere, ← List.cons_append]
    refine List.Sublist.append (filter_sublist_filter (fun literal hstands => ?_) _) (ih (some c))
    rw [List.isPrefixOf_iff_prefix] at hstands ⊢
    exact hstands.trans (List.prefix_append _ behind)

theorem everyMatch_of_anywhere (hanywhere : p.atBoundary = false) (before before' : Option Char)
    (text : Text) : p.everyMatch before text = p.everyMatch before' text := by
  cases text with
  | nil => rfl
  | cons c rest =>
    rw [everyMatch, everyMatch, matchAt, matchAt, hanywhere]
    rfl

theorem everyMatch_sublist_append_left (hanywhere : p.atBoundary = false)
    (before before' : Option Char) (front text : Text) :
    (p.everyMatch before text).Sublist (p.everyMatch before' (front ++ text)) := by
  induction front generalizing before' with
  | nil => exact everyMatch_of_anywhere hanywhere before before' text ▸ List.Sublist.refl _
  | cons c front ih => exact List.sublist_append_of_sublist_right (ih (some c))

/-- The matches in a text are among the matches in the whole, in the same order. -/
theorem findAll_sublist (hseparate : p.Separate) (hanywhere : p.atBoundary = false)
    {text whole : Text} (hpart : text <:+: whole) :
    (p.findAll text).Sublist (p.findAll whole) := by
  rcases hpart with ⟨front, behind, rfl⟩
  rw [findAll_eq_everyMatch hseparate, findAll_eq_everyMatch hseparate]
  exact (everyMatch_sublist_append_left hanywhere none none front text).trans
    (everyMatch_sublist_append hseparate hanywhere none (front ++ text) behind)

end Pattern

end SourceGrade
