import Mathlib.Data.List.Infix
import SourceGrade.Disk.FileSystem
import SourceGrade.Language.Detection
import SourceGrade.Proofs.Json.Files
import SourceGrade.Proofs.Signals.Occurrences
import SourceGrade.Proofs.Text.Decoding

/-!
# Signals of the bytes of a file

Files are read permissively. Ill-formed bytes neither hide a marker nor put one together: what is
looked for in the text of a file is there if and only if it is in its bytes (`readText_signals`).
-/

namespace SourceGrade

open Utf8

variable {disk : Disk} {path : Path} {bytes : Bytes} {text : Text}

namespace Signals

theorem isAscii_dangerousCall : ∀ literal ∈ dangerousCall.literals, IsAscii literal := by
  decide +kernel

theorem isAscii_testMarkers : ∀ marker ∈ testMarkers, IsAscii marker ∧ marker ≠ [] := by
  decide +kernel

theorem isAscii_errorHandlingMarkers :
    ∀ marker ∈ errorHandlingMarkers, IsAscii marker ∧ marker ≠ [] := by
  decide +kernel

end Signals

theorem Language.isAscii_keywords :
    ∀ row ∈ keywords, ∀ word ∈ row.2, IsAscii word ∧ word ≠ [] := by
  decide +kernel

namespace Utf8

theorem Reads.any_contains_iff {markers : List Text} (h : Reads bytes text)
    (hmarkers : ∀ marker ∈ markers, IsAscii marker ∧ marker ≠ []) :
    markers.any text.contains = true ↔ ∃ marker ∈ markers, encode marker <:+: bytes := by
  rw [List.any_eq_true]
  apply exists_congr
  intro marker
  apply and_congr_right
  intro hmem
  exact h.contains_iff (hmarkers marker hmem).1 (hmarkers marker hmem).2

theorem Reads.ofContent_eq (h : Reads bytes text) :
    Language.ofContent text = ((Language.keywords.find? fun row =>
      row.2.any fun word => decide (encode word <:+: bytes)).map Prod.fst).getD .unknown := by
  have hfind : Language.keywords.find? (fun row => row.2.any text.contains) =
      Language.keywords.find? fun row => row.2.any fun word => decide (encode word <:+: bytes) := by
    refine find?_congr_of_mem fun row hrow => any_congr_of_mem fun word hword => ?_
    obtain ⟨hascii, hne⟩ := Language.isAscii_keywords row hrow word hword
    rw [Bool.eq_iff_iff, decide_eq_true_iff]
    exact h.contains_iff hascii hne
  unfold Language.ofContent
  rw [← hfind]
  cases Language.keywords.find? fun row => row.2.any text.contains <;> rfl

end Utf8

theorem Disk.readText_of_readFile (hread : disk.readFile path = .ok bytes) :
    disk.fileSystem.readText path = .ok (decode bytes) := by
  show (decode <$> disk.readFile path).mapError Fault.io = _
  rw [hread]
  rfl

/-- The markers in the text of a file are those in its bytes. -/
theorem readText_signals (hread : disk.readFile path = .ok bytes) :
    ∃ text, disk.fileSystem.readText path = .ok text ∧
      (Signals.ofText text).dangerousMatches =
        literalsIn ["eval", "exec", "system(", "popen", "md5", "sha1", "password"] bytes ∧
      ((Signals.ofText text).hasTests = true ↔
        ∃ marker ∈ Signals.testMarkers, encode marker <:+: bytes) ∧
      ((Signals.ofText text).hasErrorHandling = true ↔
        ∃ marker ∈ Signals.errorHandlingMarkers, encode marker <:+: bytes) ∧
      (∀ row ∈ Language.keywords, ∀ word ∈ row.2,
        text.contains word = true ↔ encode word <:+: bytes) ∧
      (∀ fileName : Option Path, fileName.bind Language.ofPath? = none →
        Language.detect text fileName = ((Language.keywords.find? fun row =>
          row.2.any fun word => decide (encode word <:+: bytes)).map Prod.fst).getD .unknown) ∧
      ((Signals.ofText text).trailingNewline = true ↔ bytes.getLast? = some 0x0A) ∧
      ∀ valid, encode valid = bytes → text = valid := by
  have hreads := reads_decode bytes
  refine ⟨decode bytes, Disk.readText_of_readFile hread, ?_, ?_, ?_, ?_, ?_, ?_, ?_⟩
  · exact hreads.findAll_eq Signals.separate_dangerousCall rfl Signals.isAscii_dangerousCall
  · exact hreads.any_contains_iff Signals.isAscii_testMarkers
  · exact hreads.any_contains_iff Signals.isAscii_errorHandlingMarkers
  · intro row hrow word hword
    obtain ⟨hascii, hne⟩ := Language.isAscii_keywords row hrow word hword
    exact hreads.contains_iff hascii hne
  · intro fileName hname
    rw [Language.detect, hname]
    exact hreads.ofContent_eq
  · exact decide_eq_true_iff.trans (hreads.getLast?_iff (by decide))
  · exact fun valid hvalid => decode_of_decode? (decode?_eq_some_iff.2 hvalid)

/-- A file `a` with `eval` behind an unfinished character, the halves of `exec` around a byte that
begins none, `it(` behind a surrogate and a line feed behind an unfinished character. -/
def brokenDisk : Disk where
  root := .directory [([0x61], .file
    ([0xE2, 0x82] ++ [0x65, 0x76, 0x61, 0x6C] ++ [0x65, 0x78, 0xC0, 0x65, 0x63] ++
      [0xED, 0xA0, 0x80] ++ [0x69, 0x74, 0x28] ++ [0xF0, 0x9F] ++ [0x0A]))] true
  workingDirectory := []

theorem readText_signals_brokenDisk :
    ∃ text, brokenDisk.fileSystem.readText [0x61] = .ok text ∧
      (Signals.ofText text).dangerousMatches = [("eval" : Text)] ∧
      (Signals.ofText text).hasTests = true ∧ (Signals.ofText text).hasErrorHandling = false ∧
      Language.detect text (some [0x61]) = .unknown ∧
      (Signals.ofText text).trailingNewline = true := by
  have hread : brokenDisk.readFile [0x61] = .ok
      [0xE2, 0x82, 0x65, 0x76, 0x61, 0x6C, 0x65, 0x78, 0xC0, 0x65, 0x63, 0xED, 0xA0, 0x80, 0x69, 0x74,
        0x28, 0xF0, 0x9F, 0x0A] := rfl
  obtain ⟨text, htext, hrisky, htests, herrors, -, hlanguage, hnewline, -⟩ := readText_signals hread
  refine ⟨text, htext, ?_, htests.2 (by decide +kernel), ?_, ?_, hnewline.2 rfl⟩
  · rw [hrisky]
    decide +kernel
  · rw [Bool.eq_false_iff, ne_eq, herrors]
    decide +kernel
  · rw [hlanguage (some [0x61]) (by decide +kernel)]
    decide +kernel

end SourceGrade
