import Mathlib.Data.List.Infix
import SourceGrade.Proofs.Language.Content
import SourceGrade.Proofs.Text.Embedding

/-!
# The keyword table

The first row with a keyword in the text decides, so that a row counts only for keywords that no earlier
row has: some rows are left with few of them, and two with none. What is added to a text can only
lead to an earlier row, and behind a line break the earlier row of both parts is taken.
-/

namespace SourceGrade

theorem findIdx_eq_min {p q r : α → Bool} {list : List α} (h : ∀ a ∈ list, r a = (p a || q a)) :
    list.findIdx r = min (list.findIdx p) (list.findIdx q) := by
  induction list with
  | nil => rfl
  | cons a rest ih =>
    obtain ⟨ha, hrest⟩ := List.forall_mem_cons.1 h
    rw [List.findIdx_cons, List.findIdx_cons, List.findIdx_cons, ha, ih hrest]
    cases p a <;> cases q a <;> simp [Nat.add_min_add_right]

namespace Language

variable {table : List (Language × List Text)} {text : Text}

/-- Whether a keyword of the row is in the text. -/
def hits (text : Text) (row : Language × List Text) : Bool := row.2.any text.contains

/-- The language of the first row with a keyword in the text. -/
def firstHit (table : List (Language × List Text)) (text : Text) : Language :=
  ((table.find? (hits text)).map Prod.fst).getD unknown

theorem ofContent_eq_firstHit (text : Text) : ofContent text = firstHit keywords text := by
  have hhits : (fun (row : Language × List Text) => row.2.any text.contains) = hits text := rfl
  unfold ofContent firstHit
  rw [hhits]
  cases keywords.find? (hits text) <;> rfl

theorem firstHit_cons (row : Language × List Text) (table : List (Language × List Text))
    (text : Text) :
    firstHit (row :: table) text = if hits text row = true then row.1 else firstHit table text := by
  unfold firstHit
  rw [List.find?_cons]
  cases hits text row <;> rfl

/-! ## Hidden keywords -/

/-- A table without the keywords that are in `seen` or in an earlier row. -/
def unshadowed (seen : List Text) : List (Language × List Text) → List (Language × List Text)
  | [] => []
  | (language, words) :: rest =>
    (language, words.filter (· ∉ seen)) :: unshadowed (seen ++ words) rest

theorem any_contains_filter {seen : List Text} (hseen : seen.any text.contains = false)
    (words : List Text) : (words.filter (· ∉ seen)).any text.contains = words.any text.contains := by
  rw [List.any_filter, Bool.eq_iff_iff, List.any_eq_true, List.any_eq_true]
  refine exists_congr fun word => and_congr_right fun _ => ?_
  rw [Bool.and_eq_true, decide_eq_true_eq, and_iff_right_iff_imp]
  intro hword hmem
  exact List.any_eq_false.1 hseen word hmem hword

/-- As long as rows are tried in vain, none of the keywords before is in the text. -/
theorem firstHit_unshadowed {seen : List Text} (hseen : seen.any text.contains = false) :
    firstHit (unshadowed seen table) text = firstHit table text := by
  induction table generalizing seen with
  | nil => rfl
  | cons row rest ih =>
    obtain ⟨language, words⟩ := row
    have hrow : hits text (language, words.filter (· ∉ seen)) = hits text (language, words) :=
      any_contains_filter hseen words
    rw [unshadowed, firstHit_cons, firstHit_cons, hrow]
    by_cases hwords : hits text (language, words) = true
    · rw [if_pos hwords, if_pos hwords]
    · have hboth : (seen ++ words).any text.contains = false := by
        rw [List.any_append, hseen, Bool.false_or]
        exact Bool.eq_false_iff.2 hwords
      rw [if_neg hwords, if_neg hwords, ih hboth]

theorem unshadowed_keywords : unshadowed [] keywords =
    ([(python, ["def ", "class ", "import "]), (java, ["public ", "void "]), (swift, ["func "]),
      (objC, ["@interface", "@implementation"]), (dart, []), (cpp, ["#include", "int main"]), (c, []),
      (js, ["function "]), (ts, ["interface"]), (go, ["package "])] : List (Language × List Text)) := by
  decide +kernel

theorem ofContent_eq_unshadowed (text : Text) :
    ofContent text = firstHit (unshadowed [] keywords) text := by
  rw [ofContent_eq_firstHit, firstHit_unshadowed List.any_nil]

/-- A language that is found has a keyword left. -/
theorem exists_row_of_firstHit (table : List (Language × List Text)) (text : Text) :
    firstHit table text = unknown ∨ ∃ row ∈ table, row.1 = firstHit table text ∧ row.2 ≠ [] := by
  unfold firstHit
  cases hfind : table.find? (hits text) with
  | none => exact .inl rfl
  | some row =>
    refine .inr ⟨row, List.mem_of_find?_eq_some hfind, rfl, ?_⟩
    intro hwords
    have hhit : hits text row = true := List.find?_some hfind
    rw [hits, hwords, List.any_nil] at hhit
    cases hhit

/-- All keywords of such a language are hidden behind those of others. -/
theorem ofContent_ne {language : Language} (hknown : language ≠ unknown)
    (hhidden : ∀ row ∈ unshadowed [] keywords, row.1 = language → row.2 = []) (text : Text) :
    ofContent text ≠ language := by
  rw [ofContent_eq_unshadowed]
  rintro rfl
  rcases exists_row_of_firstHit (unshadowed [] keywords) text with hnone | ⟨row, hrow, heq, hwords⟩
  · exact hknown hnone
  · exact hwords (hhidden row hrow heq)

/-! ## Ranks -/

/-- The place of a language in the keyword table. Languages without a row come last. -/
def rank (language : Language) : Nat := (keywords.map Prod.fst).idxOf language

theorem idxOf_firstHit (hdistinct : (unknown :: table.map Prod.fst).Nodup) :
    (table.map Prod.fst).idxOf (firstHit table text) = table.findIdx (hits text) := by
  induction table with
  | nil => rfl
  | cons row rest ih =>
    rw [firstHit_cons, List.map_cons, List.idxOf_cons, List.findIdx_cons]
    by_cases hrow : hits text row = true
    · rw [if_pos hrow, hrow, beq_self_eq_true]
      rfl
    · obtain ⟨hunknown, hlanguage, hrest⟩ : (unknown ≠ row.1 ∧ unknown ∉ rest.map Prod.fst) ∧
          row.1 ∉ rest.map Prod.fst ∧ (rest.map Prod.fst).Nodup := by
        simpa only [List.map_cons, List.nodup_cons, List.mem_cons, not_or] using hdistinct
      have hother : row.1 ≠ firstHit rest text := by
        intro heq
        rcases exists_row_of_firstHit rest text with hfirst | ⟨other, hmem, hfirst, -⟩
        · exact hunknown.1 (hfirst.symm.trans heq.symm)
        · exact hlanguage (List.mem_map.2 ⟨other, hmem, hfirst.trans heq.symm⟩)
      rw [if_neg hrow, Bool.eq_false_iff.2 hrow, beq_eq_false_iff_ne.2 hother,
        ih (List.nodup_cons.2 ⟨hunknown.2, hrest⟩)]

theorem rank_ofContent (text : Text) : rank (ofContent text) = keywords.findIdx (hits text) := by
  rw [ofContent_eq_firstHit]
  exact idxOf_firstHit (by decide +kernel)

theorem rank_ofContent_le_of_isInfix {whole : Text} (hpart : text <:+: whole) :
    rank (ofContent whole) ≤ rank (ofContent text) := by
  rw [rank_ofContent, rank_ofContent]
  exact List.findIdx_le_findIdx fun row _ => Text.any_contains_of_isInfix hpart

/-- A row is hit behind a line break or in front of it, since no keyword has a break. -/
theorem hits_append {row : Language × List Text} (hrow : row ∈ keywords)
    (hend : text.endsLine = true) (behind : Text) :
    hits (text ++ behind) row = (hits text row || hits behind row) := by
  have hwords : hits (text ++ behind) row =
      row.2.any fun word => text.contains word || behind.contains word :=
    any_congr_of_mem fun word hword =>
      Text.contains_append_of_endsLine behind (isBreak_keywords row hrow word hword) hend
  rw [hwords, Bool.eq_iff_iff]
  simp only [hits, List.any_eq_true, Bool.or_eq_true, and_or_left, exists_or]

theorem rank_ofContent_append (hend : text.endsLine = true) (behind : Text) :
    rank (ofContent (text ++ behind)) = min (rank (ofContent text)) (rank (ofContent behind)) := by
  rw [rank_ofContent, rank_ofContent, rank_ofContent]
  exact findIdx_eq_min fun row hrow => hits_append hrow hend behind

/-! ## Detection -/

theorem detect_of_content {fileName : Option Path} (hname : fileName.bind ofPath? = none)
    (text : Text) : detect text fileName = ofContent text := by
  rw [detect, hname, Option.getD_none]

/-- Without a known extension the keywords decide, each one for the first row that has it, so that two
languages of the table are never found. A longer text is read as an earlier language or the same one. -/
theorem detect_by_keywords (text : Text) (fileName : Option Path)
    (hname : fileName.bind ofPath? = none) :
    let has (word : Text) : Bool := word <:+: text
    detect text fileName =
        (if has "def " || has "class " || has "import " then python
        else if has "public " || has "void " then java
        else if has "func " then swift
        else if has "@interface" || has "@implementation" then objC
        else if has "#include" || has "int main" then cpp
        else if has "function " then js
        else if has "interface" then ts
        else if has "package " then go
        else unknown) ∧
      (∀ language ∈ [dart, c],
        language ∈ keywords.map Prod.fst ∧ detect text fileName ≠ language) ∧
      (∀ front behind,
        rank (detect (front ++ text ++ behind) fileName) ≤ rank (detect text fileName)) ∧
      (text.endsLine = true → ∀ behind, rank (detect (text ++ behind) fileName) =
        min (rank (detect text fileName)) (rank (detect behind fileName))) := by
  intro has
  simp only [detect_of_content hname]
  have hhidden : ∀ language ∈ [dart, c], language ∈ keywords.map Prod.fst ∧ language ≠ unknown ∧
      ∀ row ∈ unshadowed [] keywords, row.1 = language → row.2 = [] := by decide +kernel
  refine ⟨?_, fun language hmem => ?_,
    fun front behind => rank_ofContent_le_of_isInfix ⟨front, behind, rfl⟩, rank_ofContent_append⟩
  · have hcontains (word : Text) : text.contains word = has word := by
      rw [Bool.eq_iff_iff, Text.contains_iff_isInfix, decide_eq_true_eq]
    rw [ofContent_eq_unshadowed, unshadowed_keywords]
    simp only [firstHit_cons, hits, List.any_cons, List.any_nil, Bool.or_false, Bool.or_assoc,
      hcontains]
    rfl
  · obtain ⟨hrow, hknown, hwords⟩ := hhidden language hmem
    exact ⟨hrow, ofContent_ne hknown hwords text⟩

/-- A keyword in front of this text can make it a text of another language, none behind it can make it
one of a later row. -/
theorem detect_by_keywords_prose :
    let text : Text := "int main\n".toList
    let fileName : Option Path := some (Path.ofText "notes.txt".toList)
    fileName.bind ofPath? = none ∧ text.endsLine = true ∧ detect text fileName = cpp ∧
      (∀ front behind, rank (detect (front ++ text ++ behind) fileName) ≤ 5) ∧
      ∀ behind, rank (detect (text ++ behind) fileName) =
        min 5 (rank (detect behind fileName)) := by
  intro text fileName
  have hname : fileName.bind ofPath? = none := by decide +kernel
  have hend : text.endsLine = true := by decide +kernel
  obtain ⟨hcontent, -, hpart, hseam⟩ := detect_by_keywords text fileName hname
  have hcpp : detect text fileName = cpp := by
    rw [hcontent]
    decide +kernel
  have hrank : rank (detect text fileName) = 5 := by
    rw [hcpp]
    decide
  rw [hrank] at hpart
  have hseam := hseam hend
  rw [hrank] at hseam
  exact ⟨hname, hend, hcpp, hpart, hseam⟩

end Language

end SourceGrade
