import SourceGrade.Proofs.Signals.Occurrences
import SourceGrade.Proofs.Text.Seam

/-!
# Signals of concatenated texts

Behind a line break, every signal of a text is put together from the signals of its two parts.
-/

namespace SourceGrade.Signals

theorem isBreak_dangerousCall :
    ∀ literal ∈ dangerousCall.literals, ∀ c ∈ literal, Text.isBreak c = false :=
  Text.isBreak_of_all (by decide +kernel)

theorem isBreak_declaration :
    ∀ literal ∈ declaration.literals, ∀ c ∈ literal, Text.isBreak c = false :=
  Text.isBreak_of_all (by decide +kernel)

theorem isBreak_loop : ∀ literal ∈ loop.literals, ∀ c ∈ literal, Text.isBreak c = false :=
  Text.isBreak_of_all (by decide +kernel)

theorem isBreak_testMarkers : ∀ marker ∈ testMarkers, ∀ c ∈ marker, Text.isBreak c = false :=
  Text.isBreak_of_all (by decide +kernel)

theorem isBreak_errorHandlingMarkers :
    ∀ marker ∈ errorHandlingMarkers, ∀ c ∈ marker, Text.isBreak c = false :=
  Text.isBreak_of_all (by decide +kernel)

theorem any_contains_append {markers : List Text} {text : Text} (behind : Text)
    (hmarkers : ∀ marker ∈ markers, ∀ c ∈ marker, Text.isBreak c = false)
    (hend : text.endsLine = true) :
    markers.any (text ++ behind).contains =
      (markers.any text.contains || markers.any behind.contains) := by
  rw [Bool.eq_iff_iff, Bool.or_eq_true, List.any_eq_true, List.any_eq_true, List.any_eq_true,
    ← exists_or]
  apply exists_congr
  intro marker
  rw [← and_or_left]
  apply and_congr_right
  intro hmem
  rw [Text.contains_append_of_endsLine behind (hmarkers marker hmem) hend, Bool.or_eq_true]

theorem totalLength_append (a b : List Text) :
    totalLength (a ++ b) = totalLength a + totalLength b := by
  induction a with
  | nil => exact (Nat.zero_add _).symm
  | cons line a ih =>
    unfold totalLength at ih ⊢
    rw [List.cons_append, List.map_cons, List.map_cons, List.foldr_cons, List.foldr_cons, ih,
      Nat.add_assoc]

theorem trailingNewline_append (a b : Text) : (ofText (a ++ b)).trailingNewline =
    if b = [] then (ofText a).trailingNewline else (ofText b).trailingNewline := by
  simp only [ofText]
  split
  next hb => rw [hb, List.append_nil]
  next hb => rw [List.getLast?_append, List.getLast?_eq_some_getLast hb, Option.some_or]

/-- If the first text is empty or ends in a line break, and no carriage return meets a line feed,
the counts add, the matches follow each other, and the markers of both parts are those of the whole. -/
theorem ofText_append (a b : Text) (hend : a.endsLine = true)
    (hseam : ¬ (a.getLast? = some '\r' ∧ b.head? = some '\n')) :
    totalLength (a ++ b).lines = totalLength a.lines + totalLength b.lines ∧
    ofText (a ++ b) =
      { lines := (ofText a).lines + (ofText b).lines
        averageLength := meanLength (totalLength a.lines + totalLength b.lines)
          ((ofText a).lines + (ofText b).lines)
        commentLines := (ofText a).commentLines + (ofText b).commentLines
        functions := (ofText a).functions + (ofText b).functions
        loops := (ofText a).loops + (ofText b).loops
        dangerousCalls := (ofText a).dangerousCalls + (ofText b).dangerousCalls
        dangerousMatches := (ofText a).dangerousMatches ++ (ofText b).dangerousMatches
        hasTests := (ofText a).hasTests || (ofText b).hasTests
        hasErrorHandling := (ofText a).hasErrorHandling || (ofText b).hasErrorHandling
        trailingNewline :=
          if b = [] then (ofText a).trailingNewline else (ofText b).trailingNewline } := by
  have hlines := Text.lines_append b hend hseam
  have hdangerous := Pattern.findAll_append separate_dangerousCall isBreak_dangerousCall b hend
  have hdeclarations := Pattern.findAll_append separate_declaration isBreak_declaration b hend
  have hloops := Pattern.findAll_append separate_loop isBreak_loop b hend
  have htests := any_contains_append b isBreak_testMarkers hend
  have herrors := any_contains_append b isBreak_errorHandlingMarkers hend
  refine ⟨by rw [hlines, totalLength_append], ?_⟩
  rw [← trailingNewline_append]
  simp only [ofText, hlines, totalLength_append, hdangerous, hdeclarations, hloops, htests, herrors,
    List.length_append, List.countP_append]

/-- A lone carriage return is a seam, also in front of a keyword. -/
theorem ofText_append_carriageReturn :
    Text.endsLine ("if md".toList ++ ['\r']) = true ∧
    ¬ (("if md".toList ++ ['\r']).getLast? = some '\r' ∧ "def f(): 5".toList.head? = some '\n') ∧
    (ofText (("if md".toList ++ ['\r']) ++ "def f(): 5".toList)).functions =
      (ofText ("if md".toList ++ ['\r'])).functions + (ofText "def f(): 5".toList).functions := by
  have hend : Text.endsLine ("if md".toList ++ ['\r']) = true := by decide +kernel
  have hseam : ¬ (("if md".toList ++ ['\r']).getLast? = some '\r' ∧
      "def f(): 5".toList.head? = some '\n') := by decide +kernel
  exact ⟨hend, hseam, congrArg functions (ofText_append _ _ hend hseam).2⟩

end SourceGrade.Signals
