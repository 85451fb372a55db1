import SourceGrade.Proofs.Text.Occurrence
import SourceGrade.Text.Lines

/-!
# Seams

Two texts are put together behind a line break. No literal without breaks reaches across such a seam,
no word goes on across it, and the lines on both sides stay what they are as long as a carriage
return does not meet a line feed.
-/

namespace SourceGrade

namespace Text

/-- Whether a text is empty or ends in a line break. -/
def endsLine (text : Text) : Bool := text.getLast?.all isBreak

theorem endsLine_tail {c : Char} {rest : Text} (h : endsLine (c :: rest) = true) :
    endsLine rest = true := by
  cases rest with
  | nil => rfl
  | cons d rest => rwa [endsLine, List.getLast?_cons_cons] at h

/-- No break is a word character. -/
theorem isWordChar_of_isBreak {c : Char} (h : isBreak c = true) : isWordChar c = false := by
  simp only [isBreak, Bool.or_eq_true, beq_iff_eq] at h
  rcases h with ((((((((h | h) | h) | h) | h) | h) | h) | h) | h) | h <;> subst h <;> decide +kernel

theorem isBreak_of_all {literals : List Text}
    (h : literals.all (fun literal => literal.all fun c => !isBreak c) = true) :
    ∀ literal ∈ literals, ∀ c ∈ literal, isBreak c = false := by
  intro literal hliteral c hc
  have hall := List.all_eq_true.1 (List.all_eq_true.1 h literal hliteral) c hc
  rwa [Bool.not_eq_true'] at hall

theorem isPrefixOf_cons_of_isBreak {literal : Text} {c : Char} (rest : Text)
    (hliteral : ∀ c ∈ literal, isBreak c = false) (hne : literal ≠ []) (hbreak : isBreak c = true) :
    literal.isPrefixOf (c :: rest) = false := by
  cases literal with
  | nil => exact absurd rfl hne
  | cons d literal =>
    have hdc : (d == c) = false := by
      rw [beq_eq_false_iff_ne]
      rintro rfl
      rw [hliteral d List.mem_cons_self] at hbreak
      cases hbreak
    rw [List.isPrefixOf_cons_cons, hdc, Bool.false_and]

/-- What starts on one side of a seam and has no break in it stays on that side. -/
theorem isPrefixOf_append_of_endsLine {literal text : Text} (behind : Text)
    (hliteral : ∀ c ∈ literal, isBreak c = false) (hne : text ≠ []) (hend : text.endsLine = true) :
    literal.isPrefixOf (text ++ behind) = literal.isPrefixOf text := by
  induction text generalizing literal with
  | nil => exact absurd rfl hne
  | cons c rest ih =>
    cases literal with
    | nil => rfl
    | cons d literal =>
      rw [List.cons_append]
      cases rest with
      | nil =>
        -- The last character before the seam is a break, and the literal has none.
        have hbreak : isBreak c = true := hend
        rw [isPrefixOf_cons_of_isBreak _ hliteral (List.cons_ne_nil d literal) hbreak,
          isPrefixOf_cons_of_isBreak _ hliteral (List.cons_ne_nil d literal) hbreak]
      | cons e rest =>
        rw [List.isPrefixOf_cons_cons, List.isPrefixOf_cons_cons]
        congr 1
        exact ih (fun c hc => hliteral c (List.mem_cons_of_mem d hc)) (List.cons_ne_nil e rest)
          (endsLine_tail hend)

theorem contains_append_of_endsLine {literal text : Text} (behind : Text)
    (hliteral : ∀ c ∈ literal, isBreak c = false) (hend : text.endsLine = true) :
    (text ++ behind).contains literal = (text.contains literal || behind.contains literal) := by
  induction text with
  | nil =>
    cases literal with
    | nil => cases behind <;> simp [contains]
    | cons c literal => rfl
  | cons c rest ih =>
    have hprefix := isPrefixOf_append_of_endsLine behind hliteral (List.cons_ne_nil c rest) hend
    rw [List.cons_append] at hprefix
    rw [List.cons_append, contains, contains, hprefix, ih (endsLine_tail hend), Bool.or_assoc]

/-! ## Lines -/

theorem linesFrom_crlf (read rest : Text) :
    linesFrom read ('\r' :: '\n' :: rest) = read.reverse :: lines rest := rfl

theorem linesFrom_break {c : Char} {rest : Text} (read : Text) (hbreak : isBreak c = true)
    (hcrlf : ¬ (c = '\r' ∧ rest.head? = some '\n')) :
    linesFrom read (c :: rest) = read.reverse :: lines rest := by
  rw [linesFrom.eq_def]
  split
  next hnil => cases hnil
  next _ hcons =>
    cases hcons
    exact absurd ⟨rfl, rfl⟩ hcrlf
  next _ hcons =>
    cases hcons
    rw [if_pos hbreak, lines]

theorem linesFrom_char {c : Char} (read rest : Text) (hchar : isBreak c = false) :
    linesFrom read (c :: rest) = linesFrom (c :: read) rest := by
  rw [linesFrom.eq_def]
  split
  next hnil => cases hnil
  next _ hcons =>
    cases hcons
    cases hchar
  next _ hcons =>
    cases hcons
    rw [hchar, if_neg Bool.false_ne_true]

theorem not_crlf {c : Char} {rest : Text} (h : ∀ tail, c = '\r' → rest = '\n' :: tail → False) :
    ¬ (c = '\r' ∧ rest.head? = some '\n') := by
  rintro ⟨hc, hhead⟩
  rcases List.head?_eq_some_iff.1 hhead with ⟨tail, htail⟩
  exact h tail hc htail

theorem linesFrom_append {read text behind : Text} (hne : text ≠ []) (hend : text.endsLine = true)
    (hseam : ¬ (text.getLast? = some '\r' ∧ behind.head? = some '\n')) :
    linesFrom read (text ++ behind) = linesFrom read text ++ lines behind := by
  fun_induction linesFrom read text with
  | case1 => exact absurd rfl hne
  | case2 => exact absurd rfl hne
  | case3 read rest ih =>
    -- A carriage return with its line feed is one break, also in front of the seam.
    rw [List.cons_append, List.cons_append, linesFrom_crlf, List.cons_append]
    cases rest with
    | nil => rfl
    | cons d rest =>
      rw [← ih (List.cons_ne_nil d rest) (endsLine_tail (endsLine_tail hend))
        (by simpa only [List.getLast?_cons_cons] using hseam)]
      rfl
  | case4 read c rest hcrlf hbreak ih =>
    cases rest with
    | nil =>
      -- The break is at the seam, where no line feed follows a carriage return.
      rw [List.singleton_append, linesFrom_break read hbreak (by simpa using hseam)]
      rfl
    | cons d rest =>
      have hcrlf' : ¬ (c = '\r' ∧ (d :: (rest ++ behind)).head? = some '\n') :=
        fun h => not_crlf hcrlf h
      rw [List.cons_append, List.cons_append, linesFrom_break read hbreak hcrlf', List.cons_append,
        ← ih (List.cons_ne_nil d rest) (endsLine_tail hend)
          (by simpa only [List.getLast?_cons_cons] using hseam)]
      rfl
  | case5 read c rest hcrlf hchar ih =>
    have hchar := Bool.eq_false_iff.2 hchar
    cases rest with
    | nil =>
      -- The text would not end in a break.
      have hbreak : isBreak c = true := hend
      rw [hbreak] at hchar
      cases hchar
    | cons d rest =>
      rw [List.cons_append, linesFrom_char read _ hchar]
      exact ih (List.cons_ne_nil d rest) (endsLine_tail hend)
        (by simpa only [List.getLast?_cons_cons] using hseam)

theorem lines_append {text : Text} (behind : Text) (hend : text.endsLine = true)
    (hseam : ¬ (text.getLast? = some '\r' ∧ behind.head? = some '\n')) :
    (text ++ behind).lines = text.lines ++ behind.lines := by
  cases text with
  | nil => rfl
  | cons c rest => exact linesFrom_append (List.cons_ne_nil c rest) hend hseam

end Text

namespace Pattern

variable {p : Pattern}

theorem matchAt_congr (before : Option Char) {text text' : Text}
    (hliterals : ∀ literal ∈ p.literals, literal.isPrefixOf text = literal.isPrefixOf text')
    (hhead : text.head? = text'.head?) : p.matchAt before text = p.matchAt before text' := by
  rw [matchAt, matchAt, find?_congr_of_mem hliterals, hhead]

theorem matchAt_append (before : Option Char) {text : Text} (behind : Text)
    (hp : ∀ literal ∈ p.literals, ∀ c ∈ literal, Text.isBreak c = false)
    (hne : text ≠ []) (hend : text.endsLine = true) :
    p.matchAt before (text ++ behind) = p.matchAt before text := by
  have hhead : (text ++ behind).head? = text.head? := by
    cases text with
    | nil => exact absurd rfl hne
    | cons c rest => rfl
  exact matchAt_congr before (fun literal hmem =>
    Text.isPrefixOf_append_of_endsLine behind (hp literal hmem) hne hend) hhead

theorem everyMatch_append (before : Option Char) {text : Text} (behind : Text)
    (hp : ∀ literal ∈ p.literals, ∀ c ∈ literal, Text.isBreak c = false)
    (hend : text.endsLine = true) :
    p.everyMatch before (text ++ behind) =
      p.everyMatch before text ++ p.everyMatch (text.getLast?.or before) behind := by
  induction text generalizing before with
  | nil => rfl
  | cons c rest ih =>
    have hmatch := matchAt_append before behind hp (List.cons_ne_nil c rest) hend
    rw [List.cons_append] at hmatch
    rw [List.cons_append, everyMatch, hmatch, ih (some c) (Text.endsLine_tail hend), everyMatch,
      List.append_assoc, getLast?_cons_or]

theorem everyMatch_of_not_isWordChar {before : Option Char}
    (hbefore : before.any Text.isWordChar = false) (text : Text) :
    p.everyMatch before text = p.everyMatch none text := by
  cases text with
  | nil => rfl
  | cons c rest =>
    have hboundary : isBoundary before (c :: rest).head? = isBoundary none (c :: rest).head? := by
      rw [isBoundary, hbefore]
      rfl
    rw [everyMatch, everyMatch, matchAt, matchAt, hboundary]

/-- A scan across a seam finds what it finds on both sides. -/
theorem findAll_append (hseparate : p.Separate)
    (hp : ∀ literal ∈ p.literals, ∀ c ∈ literal, Text.isBreak c = false) {text : Text}
    (behind : Text) (hend : text.endsLine = true) :
    p.findAll (text ++ behind) = p.findAll text ++ p.findAll behind := by
  -- The character in front of the second text is a break or none at all.
  have hlast : (text.getLast?.or none).any Text.isWordChar = false := by
    rw [Option.or_none]
    unfold Text.endsLine at hend
    cases hlast : text.getLast? with
    | none => rfl
    | some c =>
      rw [hlast] at hend
      exact Text.isWordChar_of_isBreak hend
  rw [findAll_eq_everyMatch hseparate, findAll_eq_everyMatch hseparate,
    findAll_eq_everyMatch hseparate, everyMatch_append none behind hp hend,
    everyMatch_of_not_isWordChar hlast]

end Pattern

end SourceGrade
