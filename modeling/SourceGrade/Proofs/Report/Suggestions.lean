import Mathlib.Data.List.Forall2
import SourceGrade.Proofs.Json.Document
import SourceGrade.Proofs.Report.Unambiguous

/-!
# Suggestions in text and in JSON

The English messages of suggestions are there twice: JSON has those of the suggestions themselves, a
report in text those of the locale. Both list the same messages in the same order
(`suggestions_as_in_json`). A summary is what a full report begins with, and never all of it.
-/

namespace SourceGrade

/-! ## JSON -/

/-- The value that an object has under a name. -/
def Json.Datum.member? (name : Text) : Datum → Option Datum
  | object members => members.lookup name
  | _ => none

theorem Suggestion.isDocument_pretty_toJson (suggestion : Suggestion) :
    Json.IsDocument (.string suggestion.message) suggestion.toJson.pretty :=
  Json.isDocument_pretty suggestion.toJson

theorem Score.member?_suggestions (score : Score) :
    score.toJson.datum.member? "suggestions" =
      some (.array ((score.suggestions.map Suggestion.message).map .string)) := by
  have hitems : Json.itemData (score.suggestions.map Suggestion.toJson) =
      (score.suggestions.map Suggestion.message).map .string := by
    rw [Json.itemData_eq_map, List.map_map, List.map_map]
    rfl
  rw [← hitems]
  rfl

/-! ## Text -/

/-- The labels of the English locale repeat the messages of the suggestions. -/
theorem Labels.message_english (suggestion : Suggestion) :
    english.message suggestion = suggestion.message := by
  cases suggestion with
  | dangerousCalls calls =>
    have hlabel : english.dangerousCalls ++ ": ".toList = "dangerous calls: ".toList := by decide
    show english.dangerousCalls ++ ": ".toList ++ _ = "dangerous calls: ".toList ++ _
    rw [hlabel]
  | linesTooLong | insufficientComments | missingTests => rfl

namespace Report

theorem suggestionLines_english (suggestions : List Suggestion) :
    suggestionLines .english suggestions =
      (suggestions.map Suggestion.message).flatMap ("\n- ".toList ++ ·) := by
  rw [suggestionLines, List.flatMap_map]
  simp only [Labels.message_english]

theorem suggestionSection_english (suggestions : List Suggestion) :
    suggestionSection .english suggestions = "\n🛠 Suggestions:".toList ++
      if suggestions = [] then " nothing to complain about, keep it up!".toList
      else (suggestions.map Suggestion.message).flatMap ("\n- ".toList ++ ·) := by
  have htitle : "\n".toList ++ (Labels.english.suggestions ++ ":".toList) =
      "\n🛠 Suggestions:".toList := by decide
  have hclear : " ".toList ++ Labels.english.allClear =
      " nothing to complain about, keep it up!".toList := by decide
  have hsection := suggestionSection_append .english suggestions []
  rw [List.append_nil, List.append_nil] at hsection
  rw [hsection, ← suggestionLines_english, ← htitle, ← hclear, List.append_assoc, List.append_assoc]
  simp only [List.isEmpty_iff]

variable {style style' : Style}

theorem ofScore_eq_append (score : Score) (locale : Text) (hsummary : style.summary = true)
    (hfull : style'.summary = false) :
    ofScore score locale style' = ofScore score locale style ++ breakdownSection score.breakdown ++
      suggestionSection (.ofLocale locale) score.suggestions := by
  rw [ofScore_of_summary score locale hsummary, ofScore_of_full score locale hfull,
    List.append_assoc]

/-- In JSON a score has one string for each of its suggestions, alone as in the list of the whole
score. The full English report goes on behind the summary and the sub-scores with these strings, each on
a line that begins with a dash, or with the all-clear if there are none. In every locale the summary is
a beginning of the full report, and shorter. -/
theorem suggestions_as_in_json (score : Score) :
    (∃ messages : List Text,
      List.Forall₂ (fun suggestion message => ∀ document,
        Json.IsDocument document suggestion.toJson.pretty ↔ document = .string message)
        score.suggestions messages ∧
      (∃ document, Json.IsDocument document score.toJson.pretty ∧
        (∀ other, Json.IsDocument other score.toJson.pretty → other = document) ∧
        document.member? "suggestions" = some (.array (messages.map .string))) ∧
      ∀ markdown, ofScore score "en-US" ⟨false, markdown⟩ =
        ofScore score "en-US" ⟨true, markdown⟩ ++ breakdownSection score.breakdown ++
          ("\n🛠 Suggestions:".toList ++
            if score.suggestions = [] then " nothing to complain about, keep it up!".toList
            else messages.flatMap ("\n- ".toList ++ ·))) ∧
    ∀ locale markdown markdown',
      ofScore score locale ⟨true, markdown⟩ <+: ofScore score locale ⟨false, markdown'⟩ ∧
      ofScore score locale ⟨true, markdown⟩ ≠ ofScore score locale ⟨false, markdown'⟩ := by
  constructor
  · refine ⟨score.suggestions.map Suggestion.message, ?_, ?_, fun markdown => ?_⟩
    · rw [List.forall₂_map_right_iff, List.forall₂_same]
      intro suggestion _ document
      have hmessage := suggestion.isDocument_pretty_toJson
      constructor
      · exact fun hdocument => hdocument.unique hmessage
      · rintro rfl
        exact hmessage
    · have hdocument := Json.isDocument_pretty score.toJson
      exact ⟨_, hdocument, fun other hother => hother.unique hdocument, score.member?_suggestions⟩
    · rw [← suggestionSection_english]
      exact ofScore_eq_append score "en-US" rfl rfl
  · intro locale markdown markdown'
    have hfull : ofScore score locale ⟨false, markdown'⟩ =
        ofScore score locale ⟨true, markdown⟩ ++ breakdownSection score.breakdown ++
          suggestionSection (.ofLocale locale) score.suggestions :=
      ofScore_eq_append score locale rfl rfl
    obtain ⟨behind, hbehind⟩ := exists_breakdownSection_append_eq score.breakdown
      (suggestionSection (.ofLocale locale) score.suggestions)
    rw [hfull, List.append_assoc, hbehind]
    refine ⟨List.prefix_append _ _, ?_⟩
    -- The sub-scores begin with a line feed, which is more than nothing.
    rw [ne_eq, List.self_eq_append_right]
    exact List.cons_ne_nil _ _

/-- A score with a risky call that JSON has to escape. -/
def escapedScore : Score :=
  ⟨.python, 77, 23, ⟨20, 20, 8, 15, 4, 10, 0⟩,
    [.dangerousCalls ["eval", "\"\n"], .missingTests], .ofText []⟩

theorem suggestions_as_in_json_escaped :
    ofScore escapedScore "en-US" {} = ofScore escapedScore "en-US" ⟨true, false⟩ ++
      breakdownSection escapedScore.breakdown ++
      "\n🛠 Suggestions:\n- dangerous calls: eval, \"\n\n- missing tests".toList := by
  obtain ⟨⟨messages, hmessages, -, hreport⟩, -⟩ := suggestions_as_in_json escapedScore
  rw [hreport false]
  congr 1
  cases hmessages with
  | cons hcalls hrest =>
    cases hrest with
    | cons htests hnone =>
      cases hnone
      -- What JSON has for a suggestion is the only string that its printed form stands for.
      cases (hcalls _).1 (Suggestion.isDocument_pretty_toJson _)
      cases (htests _).1 (Suggestion.isDocument_pretty_toJson _)
      decide

end Report

end SourceGrade
