import SourceGrade.Json.Encode
import SourceGrade.Proofs.Text.Utf8

/-!
# Scored files as JSON

The files of a batch have a JSON form exactly if every one of their paths is UTF-8.
-/

namespace SourceGrade

namespace Utf8

/-- Where the strict reading gives a text, the permissive one gives the same. -/
theorem decode_of_decode? {bytes : Bytes} {text : Text} (h : decode? bytes = some text) :
    decode bytes = text := by
  unfold decode
  rw [mapM_id_eq_some h, List.map_map]
  exact List.map_id text

end Utf8

namespace ScoredFile

variable {file : ScoredFile} {files : List ScoredFile}

/-- The JSON form of a file with a path of characters: the path in front of all else. -/
def entry (file : ScoredFile) : Json :=
  .object (("path".toList, .string file.path.display) :: file.score.members)

theorem toJson_of_isSome (h : (Utf8.decode? file.path).isSome = true) :
    file.toJson = .ok file.entry := by
  obtain ⟨path, hpath⟩ := Option.isSome_iff_exists.1 h
  have hdisplay : file.path.display = path := Utf8.decode_of_decode? hpath
  unfold toJson entry
  rw [hpath, hdisplay]

theorem toJson_of_none (h : Utf8.decode? file.path = none) : file.toJson = .error .pathNotUtf8 := by
  unfold toJson
  rw [h]

theorem mapM_toJson_of_forall (h : ∀ file ∈ files, (Utf8.decode? file.path).isSome = true) :
    files.mapM toJson = .ok (files.map entry) := by
  induction files with
  | nil => rfl
  | cons file files ih =>
    rw [List.forall_mem_cons] at h
    rw [List.mapM_cons, toJson_of_isSome h.1, ih h.2]
    rfl

theorem mapM_toJson_of_exists (h : ∃ file ∈ files, Utf8.decode? file.path = none) :
    files.mapM toJson = .error .pathNotUtf8 := by
  induction files with
  | nil =>
    obtain ⟨file, hmem, -⟩ := h
    cases hmem
  | cons file files ih =>
    rw [List.mapM_cons]
    cases hpath : Utf8.decode? file.path with
    | none =>
      rw [toJson_of_none hpath]
      rfl
    | some path =>
      -- The path at fault is further behind.
      have hrest : ∃ file ∈ files, Utf8.decode? file.path = none := by
        obtain ⟨other, hmem, hnone⟩ := h
        cases List.mem_cons.1 hmem with
        | inl heq =>
          rw [heq, hpath] at hnone
          cases hnone
        | inr hmem => exact ⟨other, hmem, hnone⟩
      rw [toJson_of_isSome (Option.isSome_iff_exists.2 ⟨path, hpath⟩), ih hrest]
      rfl

theorem allToJson_of_forall (h : ∀ file ∈ files, (Utf8.decode? file.path).isSome = true) :
    allToJson files = .ok (.array (files.map entry)) := by
  unfold allToJson
  rw [mapM_toJson_of_forall h]
  rfl

/-- One path that is not UTF-8 leaves no file a JSON form. -/
theorem allToJson_of_exists (h : ∃ file ∈ files, Utf8.decode? file.path = none) :
    allToJson files = .error .pathNotUtf8 := by
  unfold allToJson
  rw [mapM_toJson_of_exists h]
  rfl

end ScoredFile

end SourceGrade
