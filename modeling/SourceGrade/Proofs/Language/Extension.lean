import SourceGrade.Language.Detection
import SourceGrade.Proofs.AssociationList
import SourceGrade.Proofs.Path.Name
import SourceGrade.Proofs.Text.Utf8

/-!
# Languages of file names

A path stands for a language if its name ends in a dot and an extension of the table, byte for byte,
with something in front of the dot. Nothing else in the path matters.
-/

namespace SourceGrade.Language

open SourceGrade.Path (EndsIn Trailing)

variable {p q : Path} {language : Language}

theorem ofPath?_congr (h : p.fileName? = q.fileName?) : ofPath? p = ofPath? q := by
  rw [ofPath?, ofPath?, Path.extension?, Path.extension?, h]

theorem nodup_extensions : (extensions.map (·.1)).Nodup := by decide +kernel

/-- An extension is known as the bytes of a tag, so that bytes that are no text are not known. -/
theorem ofPath?_eq_some_iff : ofPath? p = some language ↔
    ∃ tag, (tag, language) ∈ extensions ∧ p.extension? = some (Path.ofText tag) := by
  simp only [ofPath?, Option.bind_eq_bind, Option.bind_eq_some_iff, Utf8.decode?_eq_some_iff]
  constructor
  · rintro ⟨ext, hext, tag, rfl, hlookup⟩
    exact ⟨tag, mem_of_lookup hlookup, hext⟩
  · rintro ⟨tag, hmem, hext⟩
    exact ⟨_, hext, tag, rfl, lookup_of_mem nodup_extensions hmem⟩

/-- More separators between two parts of a path change nothing. -/
theorem ofPath?_replicate_separator (front behind : Bytes) (n : Nat) :
    ofPath? (front ++ List.replicate n Path.separator ++ Path.separator :: behind) =
      ofPath? (front ++ Path.separator :: behind) := by
  refine ofPath?_congr (Path.fileName?_congr ?_)
  induction n with
  | zero => rw [List.replicate_zero, List.append_nil]
  | succ n ih =>
    -- The last separator has an empty part in front of it.
    rw [List.replicate_succ', ← List.append_assoc, List.append_assoc, List.singleton_append]
    exact (Path.components_silent (.inl rfl) _ _).trans ih

/-- The language of a path is that of the extension of its name. Directories in front of the name,
repeated separators, and separators and lone dots at the end have no part in it. -/
theorem ofPath_by_extension (p : Path) :
    (∀ language, ofPath? p = some language ↔ ∃ stem ext,
      EndsIn p (stem ++ Path.dot :: ext) ∧ stem ≠ [] ∧ Path.dot ∉ ext ∧
        ∃ tag, (tag, language) ∈ extensions ∧ Path.ofText tag = ext) ∧
    (∀ language, ofPath? p = some language → ∀ text, detect text (some p) = language) ∧
    (∀ name, EndsIn p name → ∀ dir, ofPath? (dir ++ Path.separator :: p) = ofPath? p) ∧
    (∀ front behind, p = front ++ Path.separator :: behind → ∀ n,
      ofPath? (front ++ List.replicate n Path.separator ++ Path.separator :: behind) = ofPath? p) ∧
    ∀ tail, Trailing tail → ofPath? (p ++ tail) = ofPath? p := by
  refine ⟨fun language => ?_, fun language hlanguage text => ?_, fun name hname dir => ?_,
    fun front behind heq n => ?_,
    fun tail htail => ofPath?_congr (Path.fileName?_append_trailing p htail)⟩
  · rw [ofPath?_eq_some_iff]
    constructor
    · rintro ⟨tag, hmem, hext⟩
      obtain ⟨stem, hends, hstem, hdot⟩ := Path.extension?_eq_some_iff.1 hext
      exact ⟨stem, _, hends, hstem, hdot, tag, hmem, rfl⟩
    · rintro ⟨stem, ext, hends, hstem, hdot, tag, hmem, rfl⟩
      exact ⟨tag, hmem, Path.extension?_eq_some_iff.2 ⟨stem, hends, hstem, hdot⟩⟩
  · rw [detect, Option.bind_some, hlanguage, Option.getD_some]
  · exact ofPath?_congr ((hname.append_left dir).fileName?_eq.trans hname.fileName?_eq.symm)
  · rw [heq]
    exact ofPath?_replicate_separator front behind n

/-- Only the last of the three dots counts, and no directory does. -/
theorem ofPath_by_extension_nested :
    let p : Path := Path.ofText "src/.a.b.py".toList
    ofPath? p = some python ∧
      (∀ dir, ofPath? (dir ++ Path.separator :: p) = some python) ∧
      ∀ tail, Trailing tail → ofPath? (p ++ tail) = some python := by
  intro p
  obtain ⟨hext, -, hdir, -, htail⟩ := ofPath_by_extension p
  have hends : EndsIn p (Path.ofText ".a.b".toList ++ Path.dot :: Path.ofText "py".toList) :=
    ⟨by decide +kernel, Path.ofText "src/".toList, [], by decide +kernel, .inr (by decide +kernel), .nil⟩
  have hpython : ofPath? p = some python :=
    (hext python).2 ⟨_, _, hends, by decide +kernel, by decide +kernel, "py".toList, by decide +kernel,
      rfl⟩
  exact ⟨hpython, fun dir => (hdir _ hends dir).trans hpython,
    fun tail h => (htail tail h).trans hpython⟩

end SourceGrade.Language
