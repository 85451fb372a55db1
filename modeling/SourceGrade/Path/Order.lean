import SourceGrade.Path.Basic

/-!
# The order of paths

Paths are compared component by component: the root comes before a leading dot, that before `..`,
that before all names, and names are ordered by their bytes. A path comes before those that go on
from it. Paths with the same components are tied, whatever their bytes.
-/

namespace SourceGrade

/-- The lexicographic order of lists over an order of their items. -/
def lexicographic (le : α → α → Bool) : List α → List α → Bool
  | [], _ => true
  | _ :: _, [] => false
  | a :: as, b :: bs => le a b && (!le b a || lexicographic le as bs)

theorem lexicographic_total {le : α → α → Bool} (total : ∀ a b, le a b || le b a)
    (as bs : List α) : lexicographic le as bs || lexicographic le bs as := by
  induction as generalizing bs with
  | nil => simp [lexicographic]
  | cons a as ih =>
    cases bs with
    | nil => simp [lexicographic]
    | cons b bs =>
      have hab := total a b
      have hrest := ih bs
      cases h : le a b <;> cases h' : le b a <;> simp_all [lexicographic]

theorem lexicographic_trans {le : α → α → Bool} (trans : ∀ a b c, le a b → le b c → le a c)
    (as bs cs : List α) (hab : lexicographic le as bs) (hbc : lexicographic le bs cs) :
    lexicographic le as cs := by
  induction as generalizing bs cs with
  | nil => simp [lexicographic]
  | cons a as ih =>
    match bs, cs with
    | [], _ => simp [lexicographic] at hab
    | b :: bs, [] => simp [lexicographic] at hbc
    | b :: bs, c :: cs =>
      simp only [lexicographic, Bool.and_eq_true, Bool.or_eq_true, Bool.not_eq_true'] at hab hbc ⊢
      refine ⟨trans a b c hab.1 hbc.1, ?_⟩
      cases hca : le c a with
      | false => exact .inl rfl
      | true =>
        have hba := trans b c a hbc.1 hca
        have hcb := trans c a b hca hab.1
        exact .inr (ih bs cs (by simpa [hba] using hab.2) (by simpa [hcb] using hbc.2))

theorem lexicographic_antisymm {le : α → α → Bool} (antisymm : ∀ a b, le a b → le b a → a = b)
    (as bs : List α) (hab : lexicographic le as bs) (hba : lexicographic le bs as) : as = bs := by
  induction as generalizing bs with
  | nil =>
    cases bs with
    | nil => rfl
    | cons b bs => simp [lexicographic] at hba
  | cons a as ih =>
    cases bs with
    | nil => simp [lexicographic] at hab
    | cons b bs =>
      simp only [lexicographic, Bool.and_eq_true, Bool.or_eq_true, Bool.not_eq_true'] at hab hba
      have hrest : lexicographic le as bs := by simpa [hba.1] using hab.2
      have hrest' : lexicographic le bs as := by simpa [hab.1] using hba.2
      rw [antisymm a b hab.1 hba.1, ih bs hrest hrest']

/-- The order of bytes by their numbers. -/
def bytesLe (a b : Bytes) : Bool :=
  lexicographic Nat.ble (a.map UInt8.toNat) (b.map UInt8.toNat)

namespace Path

/-- Numbers whose lexicographic order is the order of components. -/
def Component.key : Component → List Nat
  | .root => [0]
  | .here => [1]
  | .parent => [2]
  | .name bytes => 3 :: bytes.map UInt8.toNat

/-- The list whose lexicographic order is the order of paths. -/
def sortKey (p : Path) : List (List Nat) := p.components.map Component.key

def le (p q : Path) : Bool := lexicographic (lexicographic Nat.ble) p.sortKey q.sortKey

/-- The paths in order; tied paths keep their places among each other. -/
def sort (paths : List Path) : List Path := paths.mergeSort le

end Path

end SourceGrade
