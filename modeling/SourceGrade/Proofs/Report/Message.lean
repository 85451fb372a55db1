import SourceGrade.Proofs.Text.Delimiter
import SourceGrade.Proofs.Text.Occurrence
import SourceGrade.Report.Labels
import SourceGrade.Score

/-!
# Messages of suggestions

In every locale, a suggestion that the signals of a text give rise to is determined by its message,
and its message is a single line.
-/

namespace SourceGrade

namespace Suggestion

/-- The risky calls of a suggestion are names of such calls, and there is one at least. -/
def Named : Suggestion → Prop
  | dangerousCalls calls => calls ≠ [] ∧ ∀ call ∈ calls, call ∈ Signals.dangerousCall.literals
  | _ => True

theorem named_of_mem_ofText {text : Text} {suggestion : Suggestion}
    (h : suggestion ∈ ofSignals (.ofText text)) : suggestion.Named := by
  unfold ofSignals at h
  rw [List.mem_append, List.mem_append, List.mem_append] at h
  rcases h with ((hlines | hcomments) | hcalls) | htests
  · split at hlines
    · exact List.mem_singleton.1 hlines ▸ trivial
    · cases hlines
  · split at hcomments
    · exact List.mem_singleton.1 hcomments ▸ trivial
    · cases hcomments
  · split at hcalls
    next => cases hcalls
    next hmatches =>
      rw [List.mem_singleton.1 hcalls]
      refine ⟨fun hnil => hmatches (List.isEmpty_iff.2 hnil), fun call hcall => ?_⟩
      exact Pattern.mem_literals_of_mem_scan hcall
  · split at htests
    · cases htests
    · exact List.mem_singleton.1 htests ▸ trivial

theorem comma_notMem_literals : ∀ call ∈ Signals.dangerousCall.literals, ',' ∉ call := by
  decide +kernel

theorem newline_notMem_literals : ∀ call ∈ Signals.dangerousCall.literals, '\n' ∉ call := by
  decide +kernel

end Suggestion

namespace Labels

variable {labels : Labels} {suggestion other : Suggestion}

/-- The messages that are the same whatever has been found. -/
def fixedMessages (labels : Labels) : List Text :=
  [labels.linesTooLong, labels.insufficientComments, labels.missingTests]

/-- What messages need to be told apart: they are single lines, those that are fixed differ, and none
of these opens as the one on risky calls does. -/
structure Distinct (labels : Labels) : Prop where
  oneLine : ∀ message ∈ labels.dangerousCalls :: labels.fixedMessages, '\n' ∉ message
  nodup : labels.fixedMessages.Nodup
  apart : ∀ message ∈ labels.fixedMessages, ¬ labels.dangerousCalls <+: message

theorem distinct_english : english.Distinct where
  oneLine := by decide +kernel
  nodup := by decide +kernel
  apart := by decide +kernel

theorem distinct_chinese : chinese.Distinct where
  oneLine := by decide +kernel
  nodup := by decide +kernel
  apart := by decide +kernel

theorem distinct_ofLocale (locale : Text) : (ofLocale locale).Distinct := by
  unfold ofLocale
  cases hfound : all.find? (·.id = locale) with
  | none => exact distinct_chinese
  | some labels =>
    have hmem := List.mem_of_find?_eq_some hfound
    rcases List.mem_cons.1 hmem with rfl | hmem
    · exact distinct_english
    · exact List.mem_singleton.1 hmem ▸ distinct_chinese

/-- The message of a suggestion is a fixed one unless the suggestion is about risky calls. -/
theorem message_mem_fixedMessages (labels : Labels) (h : ∀ calls, suggestion ≠ .dangerousCalls calls) :
    labels.message suggestion ∈ labels.fixedMessages := by
  cases suggestion with
  | linesTooLong => exact List.mem_cons_self
  | insufficientComments => exact List.mem_cons_of_mem _ List.mem_cons_self
  | dangerousCalls calls => exact absurd rfl (h calls)
  | missingTests => exact List.mem_cons_of_mem _ (List.mem_cons_of_mem _ List.mem_cons_self)

theorem message_dangerousCalls (labels : Labels) (calls : List Text) :
    labels.message (.dangerousCalls calls) =
      labels.dangerousCalls ++ (": ".toList ++ Text.join ", ".toList calls) :=
  List.append_assoc _ _ _

theorem Distinct.newline_notMem_message (h : labels.Distinct) (hnamed : suggestion.Named) :
    '\n' ∉ labels.message suggestion := by
  cases suggestion with
  | dangerousCalls calls =>
    rw [message_dangerousCalls, List.mem_append, List.mem_append]
    rintro (hlabel | hcolon | hcalls)
    · exact h.oneLine _ List.mem_cons_self hlabel
    · revert hcolon
      decide
    · refine Text.notMem_join (by decide) (fun call hcall => ?_) hcalls
      exact Suggestion.newline_notMem_literals call (hnamed.2 call hcall)
  | linesTooLong | insufficientComments | missingTests =>
    exact h.oneLine _ (List.mem_cons_of_mem _ (message_mem_fixedMessages labels nofun))

/-- A suggestion is determined by its message. -/
theorem Distinct.message_inj (h : labels.Distinct) (hnamed : suggestion.Named)
    (hnamed' : other.Named) (heq : labels.message suggestion = labels.message other) :
    suggestion = other := by
  -- A message on risky calls is none of the fixed ones.
  have hcalls : ∀ {calls : List Text} {fixed : Suggestion},
      (∀ calls, fixed ≠ .dangerousCalls calls) →
      labels.message (.dangerousCalls calls) ≠ labels.message fixed := by
    intro calls fixed hfixed hmessage
    refine h.apart _ (message_mem_fixedMessages labels hfixed) ?_
    rw [← hmessage, message_dangerousCalls]
    exact List.prefix_append _ _
  have hfixed := h.nodup
  simp only [fixedMessages, List.nodup_cons, List.mem_cons, List.not_mem_nil, or_false, not_or]
    at hfixed
  obtain ⟨⟨hlines, hlinesTests⟩, hcomments, -⟩ := hfixed
  cases suggestion with
  | linesTooLong =>
    cases other with
    | linesTooLong => rfl
    | insufficientComments => exact absurd heq hlines
    | dangerousCalls calls => exact absurd heq.symm (hcalls nofun)
    | missingTests => exact absurd heq hlinesTests
  | insufficientComments =>
    cases other with
    | linesTooLong => exact absurd heq.symm hlines
    | insufficientComments => rfl
    | dangerousCalls calls => exact absurd heq.symm (hcalls nofun)
    | missingTests => exact absurd heq hcomments
  | dangerousCalls calls =>
    cases other with
    | linesTooLong | insufficientComments | missingTests => exact absurd heq (hcalls nofun)
    | dangerousCalls calls' =>
      rw [message_dangerousCalls, message_dangerousCalls] at heq
      have hjoin := List.append_cancel_left (List.append_cancel_left heq)
      have hcomma := Suggestion.comma_notMem_literals
      rw [Text.join_inj (fun call hcall => hcomma call (hnamed.2 call hcall))
        (fun call hcall => hcomma call (hnamed'.2 call hcall)) hnamed.1 hnamed'.1 hjoin]
  | missingTests =>
    cases other with
    | linesTooLong => exact absurd heq.symm hlinesTests
    | insufficientComments => exact absurd heq.symm hcomments
    | dangerousCalls calls => exact absurd heq.symm (hcalls nofun)
    | missingTests => rfl

end Labels

end SourceGrade
