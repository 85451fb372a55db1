import SourceGrade.Proofs.Text.Seam

/-!
# Line endings

A line feed may have a carriage return in front of it. Such a text has the same lines, the same
literals stand in it, and a scan finds the same matches.
-/

namespace SourceGrade

namespace Text

/-- The text with a carriage return in front of every line feed. -/
def withCarriageReturns (text : Text) : Text :=
  text.flatMap fun c => if c = '\n' then ['\r', '\n'] else [c]

theorem withCarriageReturns_newline (rest : Text) :
    withCarriageReturns ('\n' :: rest) = '\r' :: '\n' :: withCarriageReturns rest := rfl

theorem withCarriageReturns_cons {c : Char} (hc : c ≠ '\n') (rest : Text) :
    withCarriageReturns (c :: rest) = c :: withCarriageReturns rest := by
  rw [withCarriageReturns, List.flatMap_cons, if_neg hc]
  rfl

theorem linesFrom_withCarriageReturns {text : Text} (hbare : '\r' ∉ text) (read : Text) :
    linesFrom read text.withCarriageReturns = linesFrom read text := by
  induction text generalizing read with
  | nil => rfl
  | cons c rest ih =>
    rw [List.mem_cons, not_or] at hbare
    rcases hbare with ⟨hc, hrest⟩
    have hcrlf (text : Text) : ¬ (c = '\r' ∧ text.head? = some '\n') := fun h => hc h.1.symm
    by_cases hnewline : c = '\n'
    · subst hnewline
      rw [withCarriageReturns_newline, linesFrom_crlf, linesFrom_break read rfl (hcrlf rest), lines,
        ih hrest, lines]
    · rw [withCarriageReturns_cons hnewline]
      cases hbreak : isBreak c with
      | true =>
        rw [linesFrom_break read hbreak (hcrlf _), linesFrom_break read hbreak (hcrlf _), lines,
          ih hrest, lines]
      | false => rw [linesFrom_char read _ hbreak, linesFrom_char read _ hbreak, ih hrest]

theorem lines_withCarriageReturns {text : Text} (hbare : '\r' ∉ text) :
    text.withCarriageReturns.lines = text.lines := linesFrom_withCarriageReturns hbare []

theorem getLast?_withCarriageReturns (text : Text) :
    text.withCarriageReturns.getLast? = text.getLast? := by
  rcases List.eq_nil_or_concat text with rfl | ⟨front, c, rfl⟩
  · rfl
  · rw [List.concat_eq_append, withCarriageReturns, List.flatMap_append, List.flatMap_singleton,
      List.getLast?_append, List.getLast?_concat]
    by_cases hnewline : c = '\n'
    · rw [if_pos hnewline, hnewline]
      rfl
    · rw [if_neg hnewline]
      rfl

variable {literal : Text}

theorem isPrefixOf_withCarriageReturns (hliteral : ∀ c ∈ literal, isBreak c = false)
    (text : Text) : literal.isPrefixOf text.withCarriageReturns = literal.isPrefixOf text := by
  induction text generalizing literal with
  | nil => rfl
  | cons c rest ih =>
    cases literal with
    | nil => rfl
    | cons d literal =>
      by_cases hnewline : c = '\n'
      · -- The literal starts neither with the carriage return nor with the line feed.
        subst hnewline
        rw [withCarriageReturns_newline,
          isPrefixOf_cons_of_isBreak _ hliteral (List.cons_ne_nil d literal) rfl,
          isPrefixOf_cons_of_isBreak _ hliteral (List.cons_ne_nil d literal) rfl]
      · rw [withCarriageReturns_cons hnewline, List.isPrefixOf_cons_cons, List.isPrefixOf_cons_cons,
          ih fun c hc => hliteral c (List.mem_cons_of_mem d hc)]

theorem contains_withCarriageReturns (hliteral : ∀ c ∈ literal, isBreak c = false)
    (hne : literal ≠ []) (text : Text) :
    text.withCarriageReturns.contains literal = text.contains literal := by
  induction text with
  | nil => rfl
  | cons c rest ih =>
    have hprefix := isPrefixOf_withCarriageReturns hliteral (c :: rest)
    by_cases hnewline : c = '\n'
    · subst hnewline
      have hnot {c : Char} (rest : Text) (hbreak : isBreak c = true) :
          literal.isPrefixOf (c :: rest) = false :=
        isPrefixOf_cons_of_isBreak rest hliteral hne hbreak
      rw [withCarriageReturns_newline, contains, contains, contains, ih, hnot _ rfl, hnot _ rfl,
        hnot _ rfl, Bool.false_or]
    · rw [withCarriageReturns_cons hnewline] at hprefix ⊢
      rw [contains, contains, hprefix, ih]

end Text

namespace Pattern

variable {p : Pattern}

theorem matchAt_cons_of_isBreak (hseparate : p.Separate)
    (hp : ∀ literal ∈ p.literals, ∀ c ∈ literal, Text.isBreak c = false) (before : Option Char)
    {c : Char} (rest : Text) (hbreak : Text.isBreak c = true) :
    p.matchAt before (c :: rest) = none := by
  cases hmatch : p.matchAt before (c :: rest) with
  | none => rfl
  | some literal =>
    rcases matchAt_eq_some hmatch with ⟨hmem, hstands⟩
    have hnot :=
      Text.isPrefixOf_cons_of_isBreak rest (hp literal hmem) (hseparate.ne_nil literal hmem) hbreak
    rw [List.isPrefixOf_iff_prefix.2 hstands] at hnot
    cases hnot

theorem everyMatch_withCarriageReturns (hseparate : p.Separate)
    (hp : ∀ literal ∈ p.literals, ∀ c ∈ literal, Text.isBreak c = false) (before : Option Char)
    (text : Text) : p.everyMatch before text.withCarriageReturns = p.everyMatch before text := by
  induction text generalizing before with
  | nil => rfl
  | cons c rest ih =>
    by_cases hnewline : c = '\n'
    · subst hnewline
      rw [Text.withCarriageReturns_newline, everyMatch, everyMatch, everyMatch, ih,
        matchAt_cons_of_isBreak hseparate hp before _ rfl,
        matchAt_cons_of_isBreak hseparate hp before _ rfl,
        matchAt_cons_of_isBreak hseparate hp (some '\r') _ rfl]
      rfl
    · have hmatch : p.matchAt before (Text.withCarriageReturns (c :: rest)) =
          p.matchAt before (c :: rest) := by
        apply matchAt_congr before fun literal hmem =>
          Text.isPrefixOf_withCarriageReturns (hp literal hmem) (c :: rest)
        rw [Text.withCarriageReturns_cons hnewline]
        rfl
      rw [Text.withCarriageReturns_cons hnewline] at hmatch ⊢
      rw [everyMatch, everyMatch, hmatch, ih]

theorem findAll_withCarriageReturns (hseparate : p.Separate)
    (hp : ∀ literal ∈ p.literals, ∀ c ∈ literal, Text.isBreak c = false) (text : Text) :
    p.findAll text.withCarriageReturns = p.findAll text := by
  rw [findAll_eq_everyMatch hseparate, findAll_eq_everyMatch hseparate,
    everyMatch_withCarriageReturns hseparate hp]

end Pattern

end SourceGrade
