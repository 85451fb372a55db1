/-!
# Texts

A text is a list of characters, so that every scan is a recursion on the text itself. A string
literal stands for its characters wherever a text is expected.
-/

namespace SourceGrade

abbrev Text := List Char

abbrev Bytes := List UInt8

instance : Coe String Text := ⟨String.toList⟩

/-- The parts of a list between the separators, empty ones included. -/
def pieces [DecidableEq α] (separator : α) : List α → List (List α)
  | [] => [[]]
  | a :: rest =>
    if a = separator then [] :: pieces separator rest
    else
      match pieces separator rest with
      | [] => [[a]]
      | first :: others => (a :: first) :: others

theorem pieces_ne_nil [DecidableEq α] (separator : α) (list : List α) :
    pieces separator list ≠ [] := by
  induction list with
  | nil => simp [pieces]
  | cons a rest ih =>
    rw [pieces]
    split
    · simp
    · split <;> simp

/-- The parts and the separators between them are the whole list. -/
theorem intercalate_pieces [DecidableEq α] (separator : α) (list : List α) :
    [separator].intercalate (pieces separator list) = list := by
  induction list with
  | nil => rfl
  | cons a rest ih =>
    rw [pieces]
    split
    next h =>
      cases hp : pieces separator rest with
      | nil => exact absurd hp (pieces_ne_nil separator rest)
      | cons first others =>
        rw [hp] at ih
        simp [List.intercalate_cons_cons, h, ih]
    next h =>
      split
      next hp => exact absurd hp (pieces_ne_nil separator rest)
      next first others hp =>
        rw [hp] at ih
        cases others with
        | nil => simp_all [List.intercalate]
        | cons second others => simp_all [List.intercalate_cons_cons]

namespace Text

/-- The decimal digits of a number, without leading zeros. -/
def ofNat (n : Nat) : Text := Nat.toDigits 10 n

/-- A number in decimal digits, behind a minus sign if it is negative. -/
def ofInt (n : Int) : Text := if n < 0 then '-' :: ofNat n.natAbs else ofNat n.natAbs

/-- Whether `literal` starts at some position of the text. -/
def contains : Text → (literal : Text) → Bool
  | [], literal => literal.isEmpty
  | c :: rest, literal => literal.isPrefixOf (c :: rest) || contains rest literal

theorem contains_iff_isInfix (text literal : Text) : text.contains literal ↔ literal <:+: text := by
  induction text with
  | nil => simp [contains]
  | cons c rest ih => simp [contains, ih, List.infix_cons_iff]

/-- The texts in order with `separator` between neighbours. -/
def join (separator : Text) : List Text → Text
  | [] => []
  | [text] => text
  | text :: rest => text ++ separator ++ join separator rest

end Text

end SourceGrade
