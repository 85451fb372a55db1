import SourceGrade.Language.Detection
import SourceGrade.Proofs.Text.Seam

/-!
# Languages of contents

What is detected from a text depends on which keywords it contains, and on nothing else in it.
-/

namespace SourceGrade

namespace Language

theorem isBreak_keywords :
    ∀ row ∈ keywords, ∀ word ∈ row.2, ∀ c ∈ word, Text.isBreak c = false := by
  intro row hrow
  apply Text.isBreak_of_all
  have hall : keywords.all (fun row => row.2.all fun word => word.all fun c => !Text.isBreak c) =
      true := by decide +kernel
  exact List.all_eq_true.1 hall row hrow

theorem ne_nil_keywords : ∀ row ∈ keywords, ∀ word ∈ row.2, word ≠ [] := by
  decide +kernel

theorem ofContent_congr {text text' : Text} (hkeywords : ∀ row ∈ keywords, ∀ word ∈ row.2,
      text.contains word = text'.contains word) : ofContent text = ofContent text' := by
  have hfind : keywords.find? (fun row => row.2.any text.contains) =
      keywords.find? (fun row => row.2.any text'.contains) :=
    find?_congr_of_mem fun row hrow => any_congr_of_mem (hkeywords row hrow)
  unfold ofContent
  rw [hfind]

end Language

theorem LanguageHint.choose_congr {text text' : Text}
    (hcontent : Language.ofContent text = Language.ofContent text') (hint : LanguageHint)
    (fileName : Option Path) : hint.choose text fileName = hint.choose text' fileName := by
  cases hint with
  | auto => rw [choose, choose, Language.detect, Language.detect, hcontent]
  | explicit language => rfl

end SourceGrade
