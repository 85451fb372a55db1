import SourceGrade.Proofs.Json.Files
import SourceGrade.Proofs.Json.Printed
import SourceGrade.Proofs.Json.Roundtrip

/-!
# Documents on scored files

The printed form of scored files is one document, an array with an object for each file. Nothing that
stands in it is lost: files that are printed alike agree in all of it.
-/

namespace SourceGrade

/-! ## Doubles -/

theorem Json.datum_double_of_isFinite {x : Binary64} (h : x.IsFinite) :
    (Json.double x).datum = .number (Json.ofDouble x) := by
  obtain ⟨negative, mantissa, exponent, hx⟩ := h
  rw [Json.datum, hx]

theorem Json.datum_double_eq_null_iff (x : Binary64) :
    (Json.double x).datum = .null ↔ ¬ x.IsFinite := by
  constructor
  · intro hnull hfinite
    rw [Json.datum_double_of_isFinite hfinite] at hnull
    cases hnull
  · intro hinfinite
    rw [Json.datum]
    cases hx : x.value with
    | finite negative mantissa exponent => exact absurd ⟨negative, mantissa, exponent, hx⟩ hinfinite
    | nan | infinite => rfl

/-! ## What a document says -/

def Breakdown.datum (b : Breakdown) : Json.Datum :=
  .object (b.entries.map fun (name, n) => (name, .number (Text.ofNat n)))

/-- The mean length is a number if it is finite, and nothing otherwise. -/
def Signals.datum (s : Signals) : Json.Datum :=
  .object
    [("lines", .number (Text.ofNat s.lines)), ("avg_line_len", (Json.double s.averageLength).datum),
      ("comment_lines", .number (Text.ofNat s.commentLines)),
      ("functions", .number (Text.ofNat s.functions)), ("loops", .number (Text.ofNat s.loops)),
      ("dangerous_calls", .number (Text.ofNat s.dangerousCalls)),
      ("dangerous_matches", .array (s.dangerousMatches.map .string)),
      ("has_tests", .bool s.hasTests), ("has_error_handling", .bool s.hasErrorHandling),
      ("trailing_newline", .bool s.trailingNewline)]

def ScoredFile.datum (file : ScoredFile) : Json.Datum :=
  .object
    [("path", .string file.path.display), ("language", .string file.score.language.tag),
      ("total", .number (Text.ofNat file.score.total)),
      ("shit_index", .number (Text.ofNat file.score.shitIndex)),
      ("breakdown", file.score.breakdown.datum),
      ("suggestions", .array (file.score.suggestions.map fun suggestion =>
        .string suggestion.message)),
      ("signals", file.score.signals.datum)]

theorem Breakdown.datum_toJson (b : Breakdown) : b.toJson.datum = b.datum := by
  rw [toJson, Json.datum, Json.memberData_eq_map, List.map_map]
  rfl

theorem Signals.datum_toJson (s : Signals) : s.toJson.datum = s.datum := by
  have hmatches : Json.itemData (s.dangerousMatches.map .string) =
      s.dangerousMatches.map .string := by
    rw [Json.itemData_eq_map, List.map_map]
    rfl
  unfold toJson datum
  simp only [Json.datum, Json.memberData, hmatches]

theorem ScoredFile.datum_entry (file : ScoredFile) : file.entry.datum = file.datum := by
  have hmessages : Json.itemData (file.score.suggestions.map Suggestion.toJson) =
      file.score.suggestions.map fun suggestion => .string suggestion.message := by
    rw [Json.itemData_eq_map, List.map_map]
    rfl
  unfold entry datum Score.members Language.toJson
  simp only [Json.datum, Json.memberData, hmessages, Breakdown.datum_toJson, Signals.datum_toJson]

theorem ScoredFile.isDocument_pretty_entries (files : List ScoredFile) :
    Json.IsDocument (.array (files.map datum)) (Json.array (files.map entry)).pretty := by
  have hdocument := Json.isDocument_pretty (.array (files.map entry))
  rw [Json.datum, Json.itemData_eq_map, List.map_map] at hdocument
  have hdatum : Json.datum ∘ entry = datum := funext datum_entry
  rw [hdatum] at hdocument
  exact hdocument

/-! ## Nothing is lost -/

/-- Two files have the same values, up to mean lengths that are both finite or both not. -/
structure ScoredFile.SameValues (file file' : ScoredFile) : Prop where
  path : file'.path = file.path
  tag : file'.score.language.tag = file.score.language.tag
  total : file'.score.total = file.score.total
  shitIndex : file'.score.shitIndex = file.score.shitIndex
  breakdown : file'.score.breakdown = file.score.breakdown
  messages : file'.score.suggestions.map Suggestion.message =
    file.score.suggestions.map Suggestion.message
  signals : file'.score.signals =
    { file.score.signals with averageLength := file'.score.signals.averageLength }
  isFinite : file'.score.signals.averageLength.IsFinite ↔ file.score.signals.averageLength.IsFinite

theorem Json.number_inj {n m : Nat} :
    Json.Datum.number (Text.ofNat n) = .number (Text.ofNat m) ↔ n = m := by
  constructor
  · intro h
    exact Text.ofNat_inj (Json.Datum.number.inj h)
  · rintro rfl
    rfl

theorem Breakdown.eq_of_datum {b b' : Breakdown} (h : b.datum = b'.datum) : b = b' := by
  have hentries := Json.Datum.object.inj h
  unfold entries at hentries
  simp only [List.map_cons, List.map_nil, List.cons.injEq, Prod.mk.injEq, true_and, and_true,
    Json.number_inj] at hentries
  obtain ⟨hreadability, hmaintainability, hrobustness, hperformance, hsecurity, htestability,
    hconsistency⟩ := hentries
  cases b
  cases b'
  simp_all

theorem Json.map_string_inj {texts texts' : List Text}
    (h : Json.Datum.array (texts.map .string) = .array (texts'.map .string)) : texts = texts' :=
  List.map_injective_iff.2 (fun _ _ => Json.Datum.string.inj) (Json.Datum.array.inj h)

/-- All that is said of signals is determined, up to a finite mean length. -/
theorem Signals.eq_of_datum {s s' : Signals} (h : s.datum = s'.datum) :
    s' = { s with averageLength := s'.averageLength } ∧
      (s'.averageLength.IsFinite ↔ s.averageLength.IsFinite) := by
  have hmembers := Json.Datum.object.inj h
  simp only [List.cons.injEq, Prod.mk.injEq, true_and, and_true, Json.number_inj,
    Json.Datum.bool.injEq] at hmembers
  obtain ⟨hlines, haverage, hcomments, hfunctions, hloops, hcalls, hmatches, htests, herrors,
    htrailing⟩ := hmembers
  constructor
  · have hmatches := Json.map_string_inj hmatches
    cases s
    cases s'
    simp_all
  · have hnull := Json.datum_double_eq_null_iff s.averageLength
    rw [haverage, Json.datum_double_eq_null_iff] at hnull
    exact not_iff_not.1 hnull

namespace ScoredFile

variable {file file' : ScoredFile} {files files' : List ScoredFile}

theorem sameValues_of_datum (hpath : Utf8.encode file.path.display = file.path)
    (hpath' : Utf8.encode file'.path.display = file'.path) (h : file.datum = file'.datum) :
    file.SameValues file' := by
  have hmembers := Json.Datum.object.inj h
  simp only [List.cons.injEq, Prod.mk.injEq, true_and, and_true, Json.number_inj,
    Json.Datum.string.injEq] at hmembers
  obtain ⟨hdisplay, htag, htotal, hindex, hbreakdown, hmessages, hsignals⟩ := hmembers
  have hmessages : file.score.suggestions.map Suggestion.message =
      file'.score.suggestions.map Suggestion.message := by
    apply Json.map_string_inj
    rw [List.map_map, List.map_map]
    exact hmessages
  obtain ⟨hsignals, hfinite⟩ := Signals.eq_of_datum hsignals
  exact {
    path := by rw [← hpath, ← hpath', hdisplay]
    tag := htag.symm
    total := htotal.symm
    shitIndex := hindex.symm
    breakdown := (Breakdown.eq_of_datum hbreakdown).symm
    messages := hmessages.symm
    signals := hsignals
    isFinite := hfinite }

theorem forall₂_sameValues_of_datum (hpaths : ∀ file ∈ files, Utf8.encode file.path.display = file.path)
    (hpaths' : ∀ file ∈ files', Utf8.encode file.path.display = file.path)
    (h : files.map datum = files'.map datum) : List.Forall₂ SameValues files files' := by
  induction files generalizing files' with
  | nil =>
    cases files' with
    | nil => exact .nil
    | cons file' files' => cases h
  | cons file files ih =>
    cases files' with
    | nil => cases h
    | cons file' files' =>
      obtain ⟨hdatum, hdata⟩ := List.cons.inj h
      rw [List.forall_mem_cons] at hpaths hpaths'
      exact .cons (sameValues_of_datum hpaths.1 hpaths'.1 hdatum) (ih hpaths.2 hpaths'.2 hdata)

/-- A path is UTF-8 exactly if its display is the text that it encodes. -/
theorem isSome_decode?_iff :
    (Utf8.decode? file.path).isSome = true ↔ Utf8.encode file.path.display = file.path := by
  constructor
  · intro h
    obtain ⟨path, hpath⟩ := Option.isSome_iff_exists.1 h
    have hdisplay : file.path.display = path := Utf8.decode_of_decode? hpath
    rw [hdisplay]
    exact Utf8.decode?_eq_some_iff.1 hpath
  · intro h
    rw [Utf8.decode?_eq_some_iff.2 h]
    rfl

theorem decode?_eq_none_iff :
    Utf8.decode? file.path = none ↔ ∀ text, Utf8.encode text ≠ file.path := by
  constructor
  · intro hnone text htext
    rw [Utf8.decode?_eq_some_iff.2 htext] at hnone
    cases hnone
  · intro h
    cases hpath : Utf8.decode? file.path with
    | none => rfl
    | some text => exact absurd (Utf8.decode?_eq_some_iff.1 hpath) (h text)

theorem allToJson_eq_error_iff : (∃ e, allToJson files = .error e) ↔
    ∃ file ∈ files, ∀ text, Utf8.encode text ≠ file.path := by
  by_cases h : ∀ file ∈ files, (Utf8.decode? file.path).isSome = true
  · constructor
    · rintro ⟨e, he⟩
      rw [allToJson_of_forall h] at he
      cases he
    · rintro ⟨file, hmem, hpath⟩
      have hsome := h file hmem
      rw [decode?_eq_none_iff.2 hpath] at hsome
      cases hsome
  · obtain ⟨file, hfile⟩ := not_forall.1 h
    obtain ⟨hmem, hpath⟩ := Classical.not_imp.1 hfile
    have hnone : Utf8.decode? file.path = none := by
      rwa [Bool.not_eq_true, Option.isSome_eq_false_iff, Option.isNone_iff_eq_none] at hpath
    constructor
    · exact fun _ => ⟨file, hmem, decode?_eq_none_iff.1 hnone⟩
    · exact fun _ => ⟨_, allToJson_of_exists ⟨file, hmem, hnone⟩⟩

theorem allToJson_eq_ok {json : Json} (h : allToJson files = .ok json) :
    json = .array (files.map entry) ∧
      ∀ file ∈ files, Utf8.encode file.path.display = file.path := by
  have hutf8 : ∀ file ∈ files, (Utf8.decode? file.path).isSome = true := by
    intro file hmem
    cases hpath : Utf8.decode? file.path with
    | none =>
      rw [allToJson_of_exists ⟨file, hmem, hpath⟩] at h
      cases h
    | some text => rfl
  rw [allToJson_of_forall hutf8] at h
  cases h
  exact ⟨rfl, fun file hmem => isSome_decode?_iff.1 (hutf8 file hmem)⟩

/-- Files have a JSON form unless a path is the encoding of no text. The printed form is then one
document, an array with an object for each file, in order, and it cannot be read as anything else. The
object has the path in front, and behind it the tag, the scores, the English suggestions and the signals,
of which the mean length is a number if it is finite and nothing otherwise. Lists of files that are
printed alike have the same values in each place. -/
theorem allToJson_document (files : List ScoredFile) :
    ((∃ e, allToJson files = .error e) ↔ ∃ file ∈ files, ∀ text, Utf8.encode text ≠ file.path) ∧
    ∀ json, allToJson files = .ok json →
      (∀ file ∈ files, Utf8.encode file.path.display = file.path) ∧
      Json.IsDocument (.array (files.map datum)) json.pretty ∧
      (∀ document, Json.IsDocument document json.pretty → document = .array (files.map datum)) ∧
      (∀ x : Binary64, (x.IsFinite → (Json.double x).datum = .number (Json.ofDouble x)) ∧
        (¬ x.IsFinite → (Json.double x).datum = .null)) ∧
      ∀ files' json', allToJson files' = .ok json' → json'.pretty = json.pretty →
        List.Forall₂ SameValues files files' := by
  refine ⟨allToJson_eq_error_iff, fun json hjson => ?_⟩
  obtain ⟨rfl, hpaths⟩ := allToJson_eq_ok hjson
  have hdocument := isDocument_pretty_entries files
  refine ⟨hpaths, hdocument, fun document h => h.unique hdocument, fun x => ?_,
    fun files' json' hjson' hsame => ?_⟩
  · exact ⟨Json.datum_double_of_isFinite, (Json.datum_double_eq_null_iff x).2⟩
  · obtain ⟨rfl, hpaths'⟩ := allToJson_eq_ok hjson'
    have hdocument' := isDocument_pretty_entries files'
    rw [hsame] at hdocument'
    exact forall₂_sameValues_of_datum hpaths hpaths'
      (Json.Datum.array.inj (hdocument.unique hdocument'))

/-- A file with the given path and a score with strings to be escaped and no mean length. -/
def sampleFile (path : Path) : ScoredFile :=
  ⟨path, ⟨.other "\"", 77, 23, ⟨20, 20, 8, 15, 4, 10, 0⟩, [.dangerousCalls ["eval", "\\"], .missingTests],
    extremeSignals .nan⟩⟩

theorem allToJson_document_sampleFile :
    (∃ e, allToJson [sampleFile [0x61], sampleFile [0xFF]] = .error e) ∧
    ∃ json, allToJson [sampleFile [0x61]] = .ok json ∧
      Json.IsDocument (.array [(sampleFile [0x61]).datum]) json.pretty ∧
      ∀ json', allToJson [sampleFile [0x62]] = .ok json' → json'.pretty ≠ json.pretty := by
  have hbad : ∀ text, Utf8.encode text ≠ (sampleFile [0xFF]).path := decode?_eq_none_iff.1 rfl
  have hok : allToJson [sampleFile [0x61]] = .ok (.array [(sampleFile [0x61]).entry]) := rfl
  obtain ⟨herror, -⟩ := allToJson_document [sampleFile [0x61], sampleFile [0xFF]]
  obtain ⟨-, hdocument⟩ := allToJson_document [sampleFile [0x61]]
  obtain ⟨-, hspells, -, -, hlost⟩ := hdocument _ hok
  refine ⟨herror.2 ⟨_, List.mem_cons_of_mem _ (List.mem_singleton_self _), hbad⟩, _, hok, hspells,
    fun json' hjson' hsame => ?_⟩
  cases hlost _ json' hjson' hsame with
  | cons hvalues =>
    have hpath : ([0x62] : Path) = [0x61] := hvalues.path
    cases hpath

end ScoredFile

end SourceGrade
