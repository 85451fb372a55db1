import SourceGrade.Proofs.Text.Occurrence
import SourceGrade.Signals

/-!
# Occurrences behind the signals

The scans for declarations, loops and risky calls miss nothing: no literal hides another one.
-/

namespace SourceGrade.Signals

theorem separate_dangerousCall : dangerousCall.Separate where
  nodup := by decide +kernel
  ne_nil := by decide +kernel
  apart := by decide +kernel

theorem separate_declaration : declaration.Separate where
  nodup := by decide +kernel
  ne_nil := by decide +kernel
  apart := by decide +kernel

theorem separate_loop : loop.Separate where
  nodup := by decide +kernel
  ne_nil := by decide +kernel
  apart := by decide +kernel

theorem isWordChar_head_declaration :
    ∀ literal ∈ declaration.literals, literal.head?.any Text.isWordChar = true := by
  decide +kernel

theorem isWordChar_head_loop :
    ∀ literal ∈ loop.literals, literal.head?.any Text.isWordChar = true := by
  decide +kernel

/-- The risky calls are all occurrences of their names, by position; the declarations and the loops
are all positions where one of their keywords stands and no word character is in front. -/
theorem ofText_scans (text : Text) :
    let names : List Text := ["eval", "exec", "system(", "popen", "md5", "sha1", "password"]
    let risky := text.occurrences names
    (∀ position literal, (position, literal) ∈ risky ↔
      literal ∈ names ∧ text.standsAt literal position = true) ∧
    risky.Pairwise (fun x y => x.1 < y.1) ∧
    (ofText text).dangerousMatches = risky.map Prod.snd ∧
    (ofText text).dangerousCalls = risky.length ∧
    (ofText text).functions = (List.range text.length).countP (fun position =>
      text.opensWord position &&
        (["def ", "func ", "function ", "void ", "class "] : List Text).any
          (text.standsAt · position)) ∧
    (ofText text).loops = (List.range text.length).countP (fun position =>
      text.opensWord position &&
        (["for ", "while "] : List Text).any (text.standsAt · position)) := by
  have hrisky := Pattern.findAll_eq_occurrences separate_dangerousCall rfl text
  refine ⟨fun position literal => Text.mem_occurrences_iff separate_dangerousCall.ne_nil,
    separate_dangerousCall.pairwise_occurrences text, hrisky, ?_, ?_, ?_⟩
  · have hlength := congrArg List.length hrisky
    rwa [List.length_map] at hlength
  · exact Pattern.length_findAll_eq_countP separate_declaration rfl isWordChar_head_declaration text
  · exact Pattern.length_findAll_eq_countP separate_loop rfl isWordChar_head_loop text

/-- A keyword behind a letter opens no declaration, and one match does not hide the next. -/
example : (ofText "undef def evalexec".toList).functions = 1 ∧
    (ofText "undef def evalexec".toList).dangerousMatches = (["eval", "exec"] : List Text) := by
  decide +kernel

end SourceGrade.Signals
