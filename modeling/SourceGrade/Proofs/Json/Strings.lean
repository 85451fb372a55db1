import SourceGrade.Json.Decode
import SourceGrade.Json.Printer

/-!
# Strings read back

Space and strings of printed JSON as a reader meets them. A printed string is read back as it was,
whatever its characters are and whatever follows it.
-/

namespace SourceGrade.Json

variable {c : Char} {text rest : Text}

/-! ## Space -/

@[simp]
theorem skipSpace_newline (depth : Nat) (text : Text) :
    skipSpace (newline depth ++ text) = skipSpace text := by
  refine List.dropWhile_append_of_pos fun c hc => ?_
  rcases List.mem_cons.1 hc with rfl | hblank
  · rfl
  · rw [List.eq_of_mem_replicate hblank]
    rfl

theorem skipSpace_cons (hc : isSpace c = false) (text : Text) :
    skipSpace (c :: text) = c :: text :=
  List.dropWhile_cons_of_neg (by rw [hc]; exact Bool.false_ne_true)

/-- What follows a value inside of an array or an object: a comma or the line break in front of the
closing bracket. -/
def EndsValue (rest : Text) : Prop := ∃ c tail, rest = c :: tail ∧ (c = ',' ∨ c = '\n')

theorem endsValue_comma (text : Text) : EndsValue (',' :: text) := ⟨_, _, rfl, Or.inl rfl⟩

theorem endsValue_newline (depth : Nat) (text : Text) : EndsValue (newline depth ++ text) :=
  ⟨_, _, rfl, Or.inr rfl⟩

/-! ## Escapes -/

theorem hexValue?_digitChar : ∀ n < 16, hexValue? (Nat.digitChar n) = some n := by decide

theorem hex4_hexDigits {n : Nat} (hn : n < 0x20) (rest : Text) :
    hex4 ('0' :: '0' :: hexDigits n ++ rest) = .ok n := by
  have hhigh := hexValue?_digitChar (n / 16) (by omega)
  have hlow := hexValue?_digitChar (n % 16) (by omega)
  have hzero : hexValue? '0' = some 0 := rfl
  unfold hexDigits
  simp only [List.cons_append, List.nil_append, hex4, hzero, hhigh, hlow]
  congr 1
  omega

/-- A control character is no surrogate, so that one escape is the whole of it. -/
theorem readEscape_hexDigits (hc : c.toNat < 0x20) (rest : Text) :
    readEscape ('u' :: '0' :: '0' :: hexDigits c.toNat ++ rest) = .ok (c, 5) := by
  have hlow : isLowSurrogate c.toNat = false := by
    simp only [isLowSurrogate, Bool.and_eq_false_iff, decide_eq_false_iff_not]
    omega
  have hhigh : isHighSurrogate c.toNat = false := by
    simp only [isHighSurrogate, Bool.and_eq_false_iff, decide_eq_false_iff_not]
    omega
  have hread := hex4_hexDigits hc rest
  rw [List.cons_append, List.cons_append] at hread
  rw [List.cons_append, List.cons_append, List.cons_append, readEscape, hread]
  simp only [bind, Except.bind, hlow, hhigh, Char.ofNat_toNat]
  rfl

/-- What is covered by an escape is passed over. -/
theorem stringFrom_covered {escape : Text → Except ReadError (Char × Nat)} (read part rest : Text) :
    stringFrom escape read part.length (part ++ rest) = stringFrom escape read 0 rest := by
  induction part with
  | nil => rfl
  | cons c part ih => exact ih

/-- The three ways to print a character: a letter behind a backslash, its number, or as it is. -/
inductive Escaped (c : Char) : Text → Prop
  | letter {l : Char} (hl : unescape? l = some c) (hu : l ≠ 'u') : Escaped c ['\\', l]
  | number (hc : c.toNat < 0x20) : Escaped c ('\\' :: 'u' :: '0' :: '0' :: hexDigits c.toNat)
  | plain (hquote : c ≠ '"') (hbackslash : c ≠ '\\') (hc : ¬ c.toNat < 0x20) : Escaped c [c]

theorem escaped_escape (c : Char) : Escaped c (escape c) := by
  unfold escape
  split
  next h => exact .letter (h ▸ rfl) (by decide)
  next hquote =>
  split
  next h => exact .letter (h ▸ rfl) (by decide)
  next hbackslash =>
  split
  next h => exact .letter (h ▸ rfl) (by decide)
  next =>
  split
  next h => exact .letter (h ▸ rfl) (by decide)
  next =>
  split
  next h => exact .letter (h ▸ rfl) (by decide)
  next =>
  split
  next h => exact .letter (h ▸ rfl) (by decide)
  next =>
  split
  next h => exact .letter (h ▸ rfl) (by decide)
  next =>
  split
  next hc => exact .number hc
  next hc => exact .plain hquote hbackslash hc

theorem readEscape_letter {l : Char} (hl : unescape? l = some c) (hu : l ≠ 'u') (rest : Text) :
    readEscape (l :: rest) = .ok (c, 1) := by
  rw [readEscape]
  · simp only [hl]
  · exact hu

/-- A printed character is read back as that character. -/
theorem stringFrom_escape (read : Text) (c : Char) (rest : Text) :
    stringFrom readEscape read 0 (escape c ++ rest) = stringFrom readEscape (c :: read) 0 rest := by
  -- Whatever stands behind the backslash, it is as many characters as the reader says.
  have hstep (part : Text) (h : readEscape (part ++ rest) = .ok (c, part.length)) :
      stringFrom readEscape read 0 ('\\' :: part ++ rest) =
        stringFrom readEscape (c :: read) 0 rest := by
    rw [List.cons_append, stringFrom, if_neg (by decide), if_pos rfl, h]
    exact stringFrom_covered (c :: read) part rest
  have hescaped := escaped_escape c
  generalize escape c = printed at hescaped ⊢
  cases hescaped with
  | letter hl hu => exact hstep _ (readEscape_letter hl hu rest)
  | number hc => exact hstep _ (readEscape_hexDigits hc rest)
  | plain hquote hbackslash hc =>
    rw [List.singleton_append, stringFrom, if_neg hquote, if_neg hbackslash, if_neg hc]

/-! ## Strings -/

theorem stringFrom_flatMap_escape (read text rest : Text) :
    stringFrom readEscape read 0 (text.flatMap escape ++ '"' :: rest) =
      .ok (read.reverse ++ text, rest) := by
  induction text generalizing read with
  | nil => rw [List.flatMap_nil, List.nil_append, List.append_nil, stringFrom, if_pos rfl]
  | cons c text ih =>
    rw [List.flatMap_cons, List.append_assoc, stringFrom_escape, ih, List.reverse_cons,
      List.append_assoc, List.singleton_append]

/-- A printed string is read back as it was. -/
@[simp]
theorem readText_quote (text rest : Text) : readText (quote text ++ rest) = .ok (text, rest) := by
  have hquote : quote text ++ rest = '"' :: (text.flatMap escape ++ '"' :: rest) := by
    rw [quote, List.append_assoc, List.cons_append, List.singleton_append]
  rw [readText, hquote, skipSpace_cons rfl]
  exact stringFrom_flatMap_escape [] text rest

end SourceGrade.Json
