import SourceGrade.Text.Basic

/-!
# Delimiters

A text that does not contain a delimiter can be read back from what it is a part of: up to the
delimiter behind it or from the one in front of it, as a number in decimal digits, or as an item of a
joined list.
-/

namespace SourceGrade

section

variable {α : Type} {delimiter : α} {front front' back back' : List α}

/-- What stands in front of the first delimiter and what stands behind it are determined. -/
theorem append_cons_inj (hfront : delimiter ∉ front) (hfront' : delimiter ∉ front')
    (h : front ++ delimiter :: back = front' ++ delimiter :: back') :
    front = front' ∧ back = back' := by
  induction front generalizing front' with
  | nil =>
    cases front' with
    | nil => exact ⟨rfl, (List.cons.inj h).2⟩
    | cons first rest =>
      rw [(List.cons.inj h).1] at hfront'
      exact absurd List.mem_cons_self hfront'
  | cons first rest ih =>
    rw [List.mem_cons, not_or] at hfront
    cases front' with
    | nil => exact absurd (List.cons.inj h).1.symm hfront.1
    | cons first' rest' =>
      rw [List.mem_cons, not_or] at hfront'
      obtain ⟨hfirst, hrest⟩ := List.cons.inj h
      obtain ⟨heq, hback⟩ := ih hfront.2 hfront'.2 hrest
      exact ⟨by rw [hfirst, heq], hback⟩

/-- What stands in front of the last delimiter and what stands behind it are determined. -/
theorem append_cons_inj_last (hback : delimiter ∉ back) (hback' : delimiter ∉ back')
    (h : front ++ delimiter :: back = front' ++ delimiter :: back') :
    front = front' ∧ back = back' := by
  have hreverse : back.reverse ++ delimiter :: front.reverse =
      back'.reverse ++ delimiter :: front'.reverse := by
    simpa using congrArg List.reverse h
  have hinj := append_cons_inj (mt List.mem_reverse.1 hback) (mt List.mem_reverse.1 hback') hreverse
  exact ⟨List.reverse_inj.1 hinj.2, List.reverse_inj.1 hinj.1⟩

end

namespace Text

/-! ## Numbers -/

theorem isDigit_of_mem_ofNat {n : Nat} {c : Char} (hc : c ∈ ofNat n) : c.isDigit = true :=
  Nat.isDigit_of_mem_toDigits (by decide) (by decide) hc

theorem notMem_ofNat {c : Char} (hc : c.isDigit = false) (n : Nat) : c ∉ ofNat n := by
  intro hmem
  rw [isDigit_of_mem_ofNat hmem] at hc
  cases hc

theorem notMem_ofInt {c : Char} (hdigit : c.isDigit = false) (hminus : c ≠ '-') (n : Int) :
    c ∉ ofInt n := by
  unfold ofInt
  split
  · rw [List.mem_cons, not_or]
    exact ⟨hminus, notMem_ofNat hdigit _⟩
  · exact notMem_ofNat hdigit _

theorem ofNat_inj {n m : Nat} (h : ofNat n = ofNat m) : n = m := by
  have hvalue := congrArg (Nat.ofDigitChars 10 · 0) h
  simpa only [ofNat, Nat.ofDigitChars_ten_toDigits] using hvalue

theorem ofInt_inj {n m : Int} (h : ofInt n = ofInt m) : n = m := by
  have hminus (k : Nat) : '-' ∉ ofNat k := notMem_ofNat (by decide) k
  unfold ofInt at h
  split at h <;> split at h
  · have habs := ofNat_inj (List.cons.inj h).2
    omega
  · exact absurd (h ▸ List.mem_cons_self) (hminus m.natAbs)
  · exact absurd (h ▸ List.mem_cons_self) (hminus n.natAbs)
  · have habs := ofNat_inj h
    omega

/-- A number is determined by its digits up to a character that is no digit. -/
theorem ofNat_append_cons_inj {c : Char} {n m : Nat} {back back' : Text} (hc : c.isDigit = false)
    (h : ofNat n ++ c :: back = ofNat m ++ c :: back') : n = m ∧ back = back' := by
  obtain ⟨hdigits, hback⟩ := append_cons_inj (notMem_ofNat hc n) (notMem_ofNat hc m) h
  exact ⟨ofNat_inj hdigits, hback⟩

/-! ## Joined texts -/

theorem join_cons_cons (separator first second : Text) (rest : List Text) :
    join separator (first :: second :: rest) =
      first ++ separator ++ join separator (second :: rest) := rfl

theorem notMem_join {c : Char} {separator : Text} {texts : List Text} (hseparator : c ∉ separator)
    (htexts : ∀ text ∈ texts, c ∉ text) : c ∉ join separator texts := by
  induction texts with
  | nil => exact List.not_mem_nil
  | cons first rest ih =>
    rw [List.forall_mem_cons] at htexts
    cases rest with
    | nil => exact htexts.1
    | cons second rest =>
      rw [join_cons_cons, List.mem_append, List.mem_append]
      rintro ((hfirst | hgap) | hrest)
      · exact htexts.1 hfirst
      · exact hseparator hgap
      · exact ih htexts.2 hrest

/-- The items of a joined list, of which there is one at least, are determined if none of them
contains the first character of the separator. -/
theorem join_inj {c : Char} {gap : Text} {texts texts' : List Text}
    (htexts : ∀ text ∈ texts, c ∉ text) (htexts' : ∀ text ∈ texts', c ∉ text)
    (hne : texts ≠ []) (hne' : texts' ≠ [])
    (h : join (c :: gap) texts = join (c :: gap) texts') : texts = texts' := by
  induction texts generalizing texts' with
  | nil => exact absurd rfl hne
  | cons first rest ih =>
    obtain ⟨first', rest', rfl⟩ := List.exists_cons_of_ne_nil hne'
    rw [List.forall_mem_cons] at htexts htexts'
    -- A second item brings a separator, which no single item contains.
    have hmem : ∀ (item second : Text) (others : List Text),
        c ∈ join (c :: gap) (item :: second :: others) := by
      intro item second others
      rw [join_cons_cons, List.append_assoc, List.mem_append]
      exact Or.inr List.mem_cons_self
    cases rest with
    | nil =>
      cases rest' with
      | nil => exact congrArg (fun item => [item]) h
      | cons second' rest' =>
        have hfirst : first = join (c :: gap) (first' :: second' :: rest') := h
        exact absurd (hfirst ▸ hmem first' second' rest') htexts.1
    | cons second rest =>
      cases rest' with
      | nil =>
        have hfirst' : join (c :: gap) (first :: second :: rest) = first' := h
        exact absurd (hfirst' ▸ hmem first second rest) htexts'.1
      | cons second' rest' =>
        rw [join_cons_cons, join_cons_cons, List.append_assoc, List.append_assoc,
          List.cons_append, List.cons_append] at h
        obtain ⟨hfirst, hjoin⟩ := append_cons_inj htexts.1 htexts'.1 h
        rw [hfirst, ih htexts.2 htexts'.2 (List.cons_ne_nil _ _) (List.cons_ne_nil _ _)
          (List.append_cancel_left hjoin)]

end Text

end SourceGrade
