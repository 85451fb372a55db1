import SourceGrade.Proofs.Text.Seam

/-!
# Texts made of lines

A text is put together from lines, with a line feed behind each of them. Its lines are those that it is
made of, and what stands in it or is found by a scan does so in one of them: nothing depends on their
order but the order of what is found.
-/

namespace SourceGrade

namespace Text

def terminated (line : Text) : Text := line ++ ['\n']

/-- The lines with a line feed behind each of them. -/
def ofLines (lines : List Text) : Text := lines.flatMap terminated

variable {line literal : Text} {lines lines' : List Text}

theorem ofLines_cons (line : Text) (lines : List Text) :
    ofLines (line :: lines) = terminated line ++ ofLines lines := rfl

theorem getLast?_terminated (line : Text) : (terminated line).getLast? = some '\n' :=
  List.getLast?_concat

theorem endsLine_terminated (line : Text) : endsLine (terminated line) = true := by
  rw [endsLine, getLast?_terminated]
  rfl

/-- A text of some lines ends in a line feed. -/
theorem getLast?_ofLines (lines : List Text) :
    (ofLines lines).getLast? = if lines.isEmpty then none else some '\n' := by
  induction lines with
  | nil => rfl
  | cons line lines ih =>
    rw [ofLines_cons, List.getLast?_append, ih, getLast?_terminated]
    cases lines <;> rfl

/-! ## Lines -/

theorem linesFrom_terminated (read : Text) (hline : ∀ c ∈ line, isBreak c = false) :
    linesFrom read (terminated line) = [read.reverse ++ line] := by
  induction line generalizing read with
  | nil => rw [List.append_nil]; rfl
  | cons c line ih =>
    rw [List.forall_mem_cons] at hline
    show linesFrom read (c :: terminated line) = _
    rw [linesFrom_char read _ hline.1, ih (c :: read) hline.2, List.reverse_cons, List.append_assoc,
      List.singleton_append]

/-- Lines without breaks are the lines of their text. -/
theorem lines_ofLines (hlines : ∀ line ∈ lines, ∀ c ∈ line, isBreak c = false) :
    (ofLines lines).lines = lines := by
  induction lines with
  | nil => rfl
  | cons line lines ih =>
    rw [List.forall_mem_cons] at hlines
    -- The line feed is a break of its own, whatever the next line starts with.
    have hseam : ¬ ((terminated line).getLast? = some '\r' ∧ (ofLines lines).head? = some '\n') := by
      rw [getLast?_terminated]
      rintro ⟨h, -⟩
      cases h
    rw [ofLines_cons, lines_append _ (endsLine_terminated line) hseam, ih hlines.2]
    show linesFrom [] (terminated line) ++ lines = _
    rw [linesFrom_terminated [] hlines.1]
    rfl

/-! ## Literals -/

theorem contains_ofLines (hliteral : ∀ c ∈ literal, isBreak c = false) (hne : literal ≠ [])
    (lines : List Text) :
    (ofLines lines).contains literal = lines.any fun line => (terminated line).contains literal := by
  induction lines with
  | nil =>
    show literal.isEmpty = false
    rw [List.isEmpty_eq_false_iff]
    exact hne
  | cons line lines ih =>
    rw [ofLines_cons, contains_append_of_endsLine _ hliteral (endsLine_terminated line), ih,
      List.any_cons]

theorem contains_ofLines_of_perm (hperm : lines'.Perm lines)
    (hliteral : ∀ c ∈ literal, isBreak c = false) (hne : literal ≠ []) :
    (ofLines lines').contains literal = (ofLines lines).contains literal := by
  rw [contains_ofLines hliteral hne, contains_ofLines hliteral hne]
  exact hperm.any_eq

end Text

namespace Pattern

variable {p : Pattern} {lines lines' : List Text}

theorem findAll_ofLines (hseparate : p.Separate)
    (hp : ∀ literal ∈ p.literals, ∀ c ∈ literal, Text.isBreak c = false) (lines : List Text) :
    p.findAll (Text.ofLines lines) = lines.flatMap fun line => p.findAll (Text.terminated line) := by
  induction lines with
  | nil => rfl
  | cons line lines ih =>
    rw [Text.ofLines_cons, findAll_append hseparate hp _ (Text.endsLine_terminated line), ih,
      List.flatMap_cons]

/-- The same is found in other order. -/
theorem findAll_ofLines_perm (hperm : lines'.Perm lines) (hseparate : p.Separate)
    (hp : ∀ literal ∈ p.literals, ∀ c ∈ literal, Text.isBreak c = false) :
    (p.findAll (Text.ofLines lines')).Perm (p.findAll (Text.ofLines lines)) := by
  rw [findAll_ofLines hseparate hp, findAll_ofLines hseparate hp]
  exact hperm.flatMap_right _

end Pattern

end SourceGrade
