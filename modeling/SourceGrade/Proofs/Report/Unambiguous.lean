import Mathlib.Data.List.Forall2
import SourceGrade.Proofs.Report.Message
import SourceGrade.Report.Text

/-!
# What a report says

A report on scored texts is read in one way only. Every part of it is determined up to what stands
behind it (the lemmas named `…_append_inj`), so that no tag, number or list of suggestions can be
mistaken for another one, nor one report for the beginning of the next.
-/

namespace SourceGrade.Report

variable {labels : Labels} {score score' : Score} {back back' : Text}

/-! ## Heading -/

theorem heading_append (labels : Labels) (score : Score) (back : Text) :
    heading labels score ++ '\n' :: back =
      "## ".toList ++ (labels.header ++ (" (".toList ++ ((score.language.tag ++ ")".toList) ++ '\n' ::
        ("- ".toList ++ (labels.shitIndex ++ (": ".toList ++ (Text.ofNat score.shitIndex ++ '\n' ::
          ("- ".toList ++ (labels.score ++ (": ".toList ++
            (Text.ofNat score.total ++ '\n' :: back))))))))))) := by
  have hclose : (")\n" : String).toList = ")".toList ++ ['\n'] := by decide
  have hnewline : ("\n" : String).toList = ['\n'] := by decide
  unfold heading
  simp only [hclose, hnewline, List.append_assoc, List.cons_append, List.nil_append]

/-- A tag without line feeds ends where its line ends. -/
theorem heading_append_inj (htag : '\n' ∉ score.language.tag) (htag' : '\n' ∉ score'.language.tag)
    (h : heading labels score ++ '\n' :: back = heading labels score' ++ '\n' :: back') :
    score.language.tag = score'.language.tag ∧ score.shitIndex = score'.shitIndex ∧
      score.total = score'.total ∧ back = back' := by
  have hclosed : ∀ {tag : Text}, '\n' ∉ tag → '\n' ∉ tag ++ ")".toList := by
    intro tag hnotMem hmem
    exact (List.mem_append.1 hmem).elim hnotMem (by decide)
  rw [heading_append, heading_append, List.append_cancel_left_eq, List.append_cancel_left_eq,
    List.append_cancel_left_eq] at h
  obtain ⟨hline, hindexLine⟩ := append_cons_inj (hclosed htag) (hclosed htag') h
  rw [List.append_cancel_left_eq, List.append_cancel_left_eq, List.append_cancel_left_eq]
    at hindexLine
  obtain ⟨hindex, htotalLine⟩ := Text.ofNat_append_cons_inj (by decide) hindexLine
  rw [List.append_cancel_left_eq, List.append_cancel_left_eq, List.append_cancel_left_eq]
    at htotalLine
  obtain ⟨htotal, hback⟩ := Text.ofNat_append_cons_inj (by decide) htotalLine
  exact ⟨List.append_cancel_right hline, hindex, htotal, hback⟩

/-! ## Sub-scores -/

theorem entryLine_append (name : Text) (value : Nat) (back : Text) :
    entryLine (name, value) ++ back =
      "- ".toList ++ (name ++ (": ".toList ++ (Text.ofNat value ++ '\n' :: back))) := by
  have hnewline : ("\n" : String).toList = ['\n'] := by decide
  unfold entryLine
  simp only [hnewline, List.append_assoc, List.singleton_append]

theorem entryLines_append_inj {entries entries' : List (Text × Nat)}
    (hnames : entries.map Prod.fst = entries'.map Prod.fst)
    (h : entries.flatMap entryLine ++ back = entries'.flatMap entryLine ++ back') :
    entries = entries' ∧ back = back' := by
  induction entries generalizing entries' with
  | nil =>
    rw [List.map_nil] at hnames
    rw [List.map_eq_nil_iff.1 hnames.symm] at h ⊢
    exact ⟨rfl, h⟩
  | cons entry rest ih =>
    obtain ⟨name, value⟩ := entry
    cases entries' with
    | nil => cases hnames
    | cons entry' rest' =>
      obtain ⟨name', value'⟩ := entry'
      rw [List.map_cons, List.map_cons, List.cons.injEq] at hnames
      obtain ⟨rfl, hnames⟩ := hnames
      rw [List.flatMap_cons, List.flatMap_cons, List.append_assoc, List.append_assoc,
        entryLine_append, entryLine_append, List.append_cancel_left_eq, List.append_cancel_left_eq,
        List.append_cancel_left_eq] at h
      obtain ⟨hvalue, hlines⟩ := Text.ofNat_append_cons_inj (by decide) h
      obtain ⟨hrest, hback⟩ := ih hnames hlines
      exact ⟨by rw [hvalue, hrest], hback⟩

theorem entries_inj {b b' : Breakdown} (h : b.entries = b'.entries) : b = b' := by
  cases b
  cases b'
  simpa [Breakdown.entries] using h

theorem breakdownSection_append_inj {b b' : Breakdown}
    (h : breakdownSection b ++ back = breakdownSection b' ++ back') : b = b' ∧ back = back' := by
  unfold breakdownSection at h
  rw [List.append_assoc, List.append_assoc, List.append_cancel_left_eq] at h
  have hnames : b.entries.map Prod.fst = b'.entries.map Prod.fst := rfl
  obtain ⟨hentries, hback⟩ := entryLines_append_inj hnames h
  exact ⟨entries_inj hentries, hback⟩

/-! ## Suggestions -/

/-- One line for each suggestion, behind a line feed. -/
def suggestionLines (labels : Labels) (suggestions : List Suggestion) : Text :=
  suggestions.flatMap fun suggestion => "\n- ".toList ++ labels.message suggestion

theorem suggestionLines_cons_append (labels : Labels) (suggestion : Suggestion)
    (rest : List Suggestion) (back : Text) :
    suggestionLines labels (suggestion :: rest) ++ back =
      '\n' :: '-' :: ' ' :: (labels.message suggestion ++ (suggestionLines labels rest ++ back)) := by
  rw [suggestionLines, List.flatMap_cons, ← suggestionLines, List.append_assoc, List.append_assoc]
  rfl

/-- What follows a message, be it the next one or an empty line, starts with a line feed. -/
theorem exists_suggestionLines_append_eq (labels : Labels) (suggestions : List Suggestion)
    (back : Text) : ∃ behind, suggestionLines labels suggestions ++ '\n' :: back = '\n' :: behind := by
  cases suggestions with
  | nil => exact ⟨back, rfl⟩
  | cons suggestion rest => exact ⟨_, suggestionLines_cons_append labels suggestion rest _⟩

theorem suggestionLines_append_inj (hlabels : labels.Distinct) {suggestions others : List Suggestion}
    (hnamed : ∀ suggestion ∈ suggestions, suggestion.Named)
    (hnamed' : ∀ suggestion ∈ others, suggestion.Named)
    (h : suggestionLines labels suggestions ++ '\n' :: '\n' :: back =
      suggestionLines labels others ++ '\n' :: '\n' :: back') :
    suggestions = others ∧ back = back' := by
  induction suggestions generalizing others with
  | nil =>
    cases others with
    | nil => exact ⟨rfl, (List.cons.inj (List.cons.inj h).2).2⟩
    | cons other others =>
      -- An empty line is no suggestion.
      rw [suggestionLines_cons_append] at h
      exact absurd (List.cons.inj (List.cons.inj h).2).1 (by decide)
  | cons suggestion suggestions ih =>
    cases others with
    | nil =>
      rw [suggestionLines_cons_append] at h
      exact absurd (List.cons.inj (List.cons.inj h).2).1 (by decide)
    | cons other others =>
      rw [List.forall_mem_cons] at hnamed hnamed'
      rw [suggestionLines_cons_append, suggestionLines_cons_append] at h
      simp only [List.cons.injEq, true_and] at h
      obtain ⟨behind, hbehind⟩ := exists_suggestionLines_append_eq labels suggestions ('\n' :: back)
      obtain ⟨behind', hbehind'⟩ := exists_suggestionLines_append_eq labels others ('\n' :: back')
      have hlines := h
      rw [hbehind, hbehind'] at hlines
      have hmessage := (append_cons_inj (hlabels.newline_notMem_message hnamed.1)
        (hlabels.newline_notMem_message hnamed'.1) hlines).1
      rw [hmessage] at h
      obtain ⟨hrest, hback⟩ := ih hnamed.2 hnamed'.2 (List.append_cancel_left h)
      exact ⟨by rw [hlabels.message_inj hnamed.1 hnamed'.1 hmessage, hrest], hback⟩

theorem suggestionSection_append (labels : Labels) (suggestions : List Suggestion) (back : Text) :
    suggestionSection labels suggestions ++ back =
      "\n".toList ++ (labels.suggestions ++ (":".toList ++
        ((if suggestions.isEmpty then " ".toList ++ labels.allClear
          else suggestionLines labels suggestions) ++ back))) := by
  unfold suggestionSection suggestionLines
  simp only [List.append_assoc]

/-- The all-clear line stands on the line of the title, suggestions stand below it. -/
theorem suggestionSection_append_inj (hlabels : labels.Distinct)
    {suggestions others : List Suggestion}
    (hnamed : ∀ suggestion ∈ suggestions, suggestion.Named)
    (hnamed' : ∀ suggestion ∈ others, suggestion.Named)
    (h : suggestionSection labels suggestions ++ '\n' :: '\n' :: back =
      suggestionSection labels others ++ '\n' :: '\n' :: back') :
    suggestions = others ∧ back = back' := by
  rw [suggestionSection_append, suggestionSection_append, List.append_cancel_left_eq,
    List.append_cancel_left_eq, List.append_cancel_left_eq] at h
  cases suggestions with
  | nil =>
    cases others with
    | nil => exact ⟨rfl, (List.cons.inj (List.cons.inj (List.append_cancel_left h)).2).2⟩
    | cons other others =>
      simp only [List.isEmpty_nil, List.isEmpty_cons, if_true, Bool.false_eq_true, if_false,
        suggestionLines_cons_append] at h
      exact absurd (List.cons.inj h).1 (by decide)
  | cons suggestion suggestions =>
    cases others with
    | nil =>
      simp only [List.isEmpty_nil, List.isEmpty_cons, if_true, Bool.false_eq_true, if_false,
        suggestionLines_cons_append] at h
      exact absurd (List.cons.inj h).1 (by decide)
    | cons other others =>
      simp only [List.isEmpty_cons, Bool.false_eq_true, if_false] at h
      exact suggestionLines_append_inj hlabels hnamed hnamed' h

/-! ## Reports -/

/-- Scores on which reports of a style agree. -/
structure Alike (style : Style) (score score' : Score) : Prop where
  tag : score.language.tag = score'.language.tag
  shitIndex : score.shitIndex = score'.shitIndex
  total : score.total = score'.total
  breakdown : style.summary = false → score.breakdown = score'.breakdown
  suggestions : style.summary = false → score.suggestions = score'.suggestions

variable {style : Style} {locale : Text}

theorem ofScore_of_summary (score : Score) (locale : Text) (hstyle : style.summary = true) :
    ofScore score locale style = heading (.ofLocale locale) score := by
  unfold ofScore
  rw [if_pos hstyle]

theorem ofScore_of_full (score : Score) (locale : Text) (hstyle : style.summary = false) :
    ofScore score locale style = heading (.ofLocale locale) score ++
      (breakdownSection score.breakdown ++
        suggestionSection (.ofLocale locale) score.suggestions) := by
  unfold ofScore
  rw [if_neg (Bool.eq_false_iff.1 hstyle), List.append_assoc]

theorem ofScore_congr (h : Alike style score score') :
    ofScore score locale style = ofScore score' locale style := by
  have hheading : ∀ labels, heading labels score = heading labels score' := by
    intro labels
    unfold heading
    rw [h.tag, h.shitIndex, h.total]
  cases hstyle : style.summary with
  | true => rw [ofScore_of_summary score locale hstyle, ofScore_of_summary score' locale hstyle, hheading]
  | false =>
    rw [ofScore_of_full score locale hstyle, ofScore_of_full score' locale hstyle, hheading,
      h.breakdown hstyle, h.suggestions hstyle]

/-- The score of some text under a tag without line feeds. -/
structure Readable (score : Score) : Prop where
  ofText : ∃ text hint fileName, score = .ofText text hint fileName
  tag : '\n' ∉ score.language.tag

theorem Readable.named (h : Readable score) : ∀ suggestion ∈ score.suggestions, suggestion.Named := by
  obtain ⟨text, hint, fileName, rfl⟩ := h.ofText
  exact fun suggestion hmem => Suggestion.named_of_mem_ofText hmem

/-- The sub-scores begin on a line of their own. -/
theorem exists_breakdownSection_append_eq (b : Breakdown) (back : Text) :
    ∃ behind, breakdownSection b ++ back = '\n' :: behind :=
  ⟨'\n' :: "### Breakdown\n".toList ++ b.entries.flatMap entryLine ++ back, rfl⟩

/-- A report is determined up to the empty line behind it. -/
theorem ofScore_append_inj (hscore : Readable score) (hscore' : Readable score')
    (h : ofScore score locale style ++ '\n' :: '\n' :: back =
      ofScore score' locale style ++ '\n' :: '\n' :: back') :
    Alike style score score' ∧ back = back' := by
  cases hstyle : style.summary with
  | true =>
    rw [ofScore_of_summary score locale hstyle, ofScore_of_summary score' locale hstyle] at h
    obtain ⟨htag, hindex, htotal, hback⟩ := heading_append_inj hscore.tag hscore'.tag h
    have hfull : style.summary ≠ false := by rw [hstyle]; decide
    exact ⟨⟨htag, hindex, htotal, fun h => absurd h hfull, fun h => absurd h hfull⟩,
      (List.cons.inj hback).2⟩
  | false =>
    rw [ofScore_of_full score locale hstyle, ofScore_of_full score' locale hstyle,
      List.append_assoc, List.append_assoc, List.append_assoc, List.append_assoc] at h
    obtain ⟨behind, hbehind⟩ := exists_breakdownSection_append_eq score.breakdown
      (suggestionSection (.ofLocale locale) score.suggestions ++ '\n' :: '\n' :: back)
    obtain ⟨behind', hbehind'⟩ := exists_breakdownSection_append_eq score'.breakdown
      (suggestionSection (.ofLocale locale) score'.suggestions ++ '\n' :: '\n' :: back')
    rw [hbehind, hbehind'] at h
    obtain ⟨htag, hindex, htotal, heq⟩ := heading_append_inj hscore.tag hscore'.tag h
    rw [heq, ← hbehind'] at hbehind
    obtain ⟨hbreakdown, hsection⟩ := breakdownSection_append_inj hbehind
    obtain ⟨hsuggestions, hback⟩ := suggestionSection_append_inj (Labels.distinct_ofLocale locale)
      hscore.named hscore'.named hsection
    exact ⟨⟨htag, hindex, htotal, fun _ => hbreakdown, fun _ => hsuggestions⟩, hback⟩

theorem ofFiles_cons (file : ScoredFile) (files : List ScoredFile) (locale : Text) (style : Style) :
    ofFiles (file :: files) locale style =
      ofScore file.score locale style ++ '\n' :: '\n' ::
        (rule ++ ("\n\n".toList ++ ofFiles files locale style)) := by
  have hempty : ("\n\n" : String).toList = ['\n', '\n'] := by decide
  simp only [ofFiles, List.flatMap_cons, hempty, List.append_assoc, List.cons_append,
    List.nil_append]

theorem ofFiles_cons_ne_nil (file : ScoredFile) (files : List ScoredFile) :
    ofFiles (file :: files) locale style ≠ [] := by
  rw [ofFiles_cons]
  exact List.append_ne_nil_of_right_ne_nil _ (List.cons_ne_nil _ _)

/-- Two lists of scored texts have the same report exactly if they are of the same length and agree,
position by position, on all that a report of the style shows. -/
theorem ofFiles_eq_iff_alike {files files' : List ScoredFile} (locale : Text) (style : Style)
    (hfiles : ∀ file ∈ files, Readable file.score) (hfiles' : ∀ file ∈ files', Readable file.score) :
    ofFiles files locale style = ofFiles files' locale style ↔
      List.Forall₂ (fun file file' => Alike style file.score file'.score) files files' := by
  induction files generalizing files' with
  | nil =>
    cases files' with
    | nil => exact ⟨fun _ => .nil, fun _ => rfl⟩
    | cons file' files' =>
      exact ⟨fun h => absurd h.symm (ofFiles_cons_ne_nil file' files'), nofun⟩
  | cons file files ih =>
    cases files' with
    | nil => exact ⟨fun h => absurd h (ofFiles_cons_ne_nil file files), nofun⟩
    | cons file' files' =>
      rw [List.forall_mem_cons] at hfiles hfiles'
      rw [ofFiles_cons, ofFiles_cons, List.forall₂_cons, ← ih hfiles.2 hfiles'.2]
      constructor
      · intro h
        obtain ⟨halike, hback⟩ := ofScore_append_inj hfiles.1 hfiles'.1 h
        exact ⟨halike, List.append_cancel_left (List.append_cancel_left hback)⟩
      · rintro ⟨halike, hrest⟩
        rw [ofScore_congr halike, hrest]

/-- Two files, of which the second is scored under a tag that looks like the end of a heading. -/
def disguised (text : Text) : List ScoredFile :=
  [⟨[0x61], .ofText text .auto none⟩,
    ⟨[0x62], .ofText text (.explicit (.other ")".toList)) none⟩]

theorem readable_disguised (text : Text) (htag : '\n' ∉ (Language.detect text none).tag) :
    ∀ file ∈ disguised text, Readable file.score := by
  rw [disguised, List.forall_mem_cons, List.forall_mem_singleton]
  have hparenthesis : '\n' ∉ ")".toList := by decide
  exact ⟨⟨⟨_, _, _, rfl⟩, htag⟩, ⟨⟨_, _, _, rfl⟩, hparenthesis⟩⟩

/-- The same number of risky calls, but other ones: only the suggestions differ. -/
theorem ofFiles_eq_iff_alike_disguised :
    (∀ file ∈ disguised "eval(x)".toList, Readable file.score) ∧
    (∀ file ∈ disguised "exec(x)".toList, Readable file.score) ∧
    ofFiles (disguised "eval(x)".toList) Labels.english.id {} ≠
      ofFiles (disguised "exec(x)".toList) Labels.english.id {} ∧
    ofFiles (disguised "eval(x)".toList) Labels.english.id ⟨true, false⟩ =
      ofFiles (disguised "exec(x)".toList) Labels.english.id ⟨true, false⟩ := by
  have heval := readable_disguised "eval(x)".toList (by decide +kernel)
  have hexec := readable_disguised "exec(x)".toList (by decide +kernel)
  refine ⟨heval, hexec, fun h => ?_, ?_⟩
  · cases (ofFiles_eq_iff_alike Labels.english.id {} heval hexec).1 h with
    | cons halike hrest =>
      have hsuggestions := halike.suggestions rfl
      revert hsuggestions
      decide +kernel
  · have hdetected : Alike ⟨true, false⟩ (.ofText "eval(x)".toList .auto none)
        (.ofText "exec(x)".toList .auto none) :=
      ⟨by decide +kernel, by decide +kernel, by decide +kernel, nofun, nofun⟩
    have htagged : Alike ⟨true, false⟩
        (.ofText "eval(x)".toList (.explicit (.other ")".toList)) none)
        (.ofText "exec(x)".toList (.explicit (.other ")".toList)) none) :=
      ⟨by decide +kernel, by decide +kernel, by decide +kernel, nofun, nofun⟩
    exact (ofFiles_eq_iff_alike Labels.english.id ⟨true, false⟩ heval hexec).2
      (.cons hdetected (.cons htagged .nil))

end SourceGrade.Report
