import SourceGrade.Disk.FileSystem
import SourceGrade.Proofs.AssociationList
import SourceGrade.Proofs.Text.Decoding
import SourceGrade.Proofs.Text.Delimiter

/-!
# Errors of a disk

What cannot be read from a disk has an error of the system, or a path that no system takes. The message of
such an error stays on one line, and it can be told from whatever stands in front of it.
-/

namespace SourceGrade

/-! ## Bytes of strings -/

theorem Utf8.encode_toList (s : String) : encode s.toList = s.toByteArray.data.toList := by
  rw [← String.utf8Encode_toList, List.utf8Encode, List.toList_data_toByteArray, encode]

theorem Utf8.mem_encode {c : Char} {text : Text} (hc : c.toNat < 0x80) (h : c ∈ text) :
    .ofNat c.toNat ∈ encode text := by
  obtain ⟨front, back, rfl⟩ := List.append_of_mem h
  have hback : encode (c :: back) = .ofNat c.toNat :: encode back := encode_cons_of_lt hc back
  rw [encode] at hback
  rw [encode, List.flatMap_append, hback]
  exact List.mem_append_right _ List.mem_cons_self

/-! ## Messages -/

namespace OsError

variable {e e' : OsError} {front front' : Text}

theorem lineFeed_notMem_words (e : OsError) : '\n' ∉ e.words := by
  -- The bytes of a string are at hand, its characters have to be decoded.
  have hbytes : ∀ row ∈ vocabulary, 0x0A ∉ row.2.toByteArray.data.toList := by decide +kernel
  unfold words
  split
  next hlookup =>
    intro hmem
    have hbyte := Utf8.mem_encode (by decide : '\n'.toNat < 0x80) hmem
    rw [Utf8.encode_toList] at hbyte
    exact hbytes _ (mem_of_lookup hlookup) hbyte
  next =>
    have hcode : '\n' ∉ Text.ofInt e.code := Text.notMem_ofInt (by decide) (by decide) _
    simp [hcode]

theorem lineFeed_notMem_message (e : OsError) : '\n' ∉ e.message := by
  have hcode : '\n' ∉ Text.ofInt e.code := Text.notMem_ofInt (by decide) (by decide) _
  simp [message, e.lineFeed_notMem_words, hcode]

/-- Behind the last space of a message there is the number. -/
theorem append_message_eq (front : Text) (e : OsError) :
    front ++ e.message =
      front ++ e.words ++ " (os error".toList ++ ' ' :: (Text.ofInt e.code ++ [')']) := by
  simp [message]

theorem space_notMem (e : OsError) : ' ' ∉ Text.ofInt e.code ++ [')'] := by
  have hcode : ' ' ∉ Text.ofInt e.code := Text.notMem_ofInt (by decide) (by decide) _
  simp [hcode]

theorem append_message_inj (h : front ++ e.message = front' ++ e'.message) :
    front = front' ∧ e = e' := by
  -- The number behind the last space gives the error, and the error all of its message.
  have hlast := h
  rw [append_message_eq, append_message_eq] at hlast
  obtain ⟨-, hnumber⟩ := append_cons_inj_last e.space_notMem e'.space_notMem hlast
  have hcode : e = e' := congrArg mk (Text.ofInt_inj (List.append_cancel_right hnumber))
  rw [hcode] at h
  exact ⟨List.append_cancel_right h, hcode⟩

theorem append_message_ne (e : OsError) (front front' : Text) :
    front ++ e.message ≠ front' ++ IoError.nulInPath.message := by
  intro h
  have hnul : front' ++ IoError.nulInPath.message =
      front' ++ "file name contained an unexpected NUL".toList ++ ' ' :: "byte".toList := by
    simp [IoError.nulInPath, IoError.message]
  have hspace : ' ' ∉ "byte".toList := by simp
  rw [append_message_eq, hnul] at h
  obtain ⟨-, hword⟩ := append_cons_inj_last e.space_notMem hspace h
  have hclosed : ')' ∈ "byte".toList := hword ▸ List.mem_append_right _ List.mem_cons_self
  simp at hclosed

end OsError

/-- The errors that come from a disk. -/
inductive IoError.OfDisk : IoError → Prop
  | nulInPath : OfDisk .nulInPath
  | os (error : OsError) : OfDisk (.os error)

namespace IoError.OfDisk

variable {e e' : IoError} {front front' : Text}

theorem lineFeed_notMem (h : e.OfDisk) : '\n' ∉ e.message := by
  cases h with
  | nulInPath => simp [IoError.nulInPath, message]
  | os error => exact error.lineFeed_notMem_message

/-- An error is determined by the end of its message. -/
theorem append_message_inj (h : e.OfDisk) (h' : e'.OfDisk)
    (heq : front ++ e.message = front' ++ e'.message) : front = front' ∧ e = e' := by
  cases h with
  | nulInPath =>
    cases h' with
    | nulInPath => exact ⟨List.append_cancel_right heq, rfl⟩
    | os error' => exact absurd heq.symm (error'.append_message_ne front' front)
  | os error =>
    cases h' with
    | nulInPath => exact absurd heq (error.append_message_ne front front')
    | os error' =>
      obtain ⟨hfront, herror⟩ := OsError.append_message_inj heq
      exact ⟨hfront, congrArg IoError.os herror⟩

end IoError.OfDisk

theorem Fault.message_io (e : IoError) : (io e).message = "io error: ".toList ++ e.message := rfl

/-! ## Reading -/

namespace Disk

variable {disk : Disk} {purpose : Purpose} {path : Path} {e : IoError} {fault : Fault}

theorem ofDisk_of_check (h : check path = .error e) : e.OfDisk := by
  unfold check at h
  split at h
  · cases h
    exact .nulInPath
  · split at h
    · cases h
      exact .os .notFound
    · split at h
      · cases h
        exact .os .nameTooLong
      · cases h

theorem ofDisk_of_target (h : disk.target purpose path = .error e) : e.OfDisk := by
  unfold target at h
  cases hcheck : check path with
  | error e' =>
    rw [hcheck] at h
    cases h
    exact ofDisk_of_check hcheck
  | ok =>
    rw [hcheck] at h
    simp only [bind, Except.bind] at h
    cases hresolve : disk.resolve purpose maxLinks (disk.locate path).1 (disk.locate path).2 with
    | error error =>
      rw [hresolve] at h
      cases h
      exact .os error
    | ok found =>
      rw [hresolve] at h
      cases h

theorem ofDisk_of_find (h : disk.find path = .error e) : e.OfDisk := by
  unfold find at h
  cases htarget : disk.target .use path with
  | error e' =>
    rw [htarget] at h
    cases h
    exact ofDisk_of_target htarget
  | ok target =>
    rw [htarget] at h
    simp only [bind, Except.bind] at h
    split at h
    · split at h
      · cases h
      · cases h
        exact .os .notFound
    · cases h
      exact .os .notFound

theorem ofDisk_of_readFile (h : disk.readFile path = .error e) : e.OfDisk := by
  unfold readFile at h
  cases hfind : disk.find path with
  | error e' =>
    rw [hfind] at h
    cases h
    exact ofDisk_of_find hfind
  | ok node =>
    rw [hfind] at h
    cases node with
    | file content permissions =>
      simp only [bind, Except.bind] at h
      split at h
      · cases h
      · cases h
        exact .os .permissionDenied
    | link | directory =>
      cases h
      exact .os .isADirectory

theorem exists_of_readText (h : disk.fileSystem.readText path = .error fault) :
    ∃ e, IoError.OfDisk e ∧ fault = .io e := by
  have hread : (Utf8.decode <$> disk.readFile path).mapError Fault.io = .error fault := h
  cases hfile : disk.readFile path with
  | error e =>
    rw [hfile] at hread
    cases hread
    exact ⟨e, ofDisk_of_readFile hfile, rfl⟩
  | ok content =>
    rw [hfile] at hread
    cases hread

end Disk

end SourceGrade
