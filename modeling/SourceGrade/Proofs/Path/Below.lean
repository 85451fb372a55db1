import SourceGrade.Proofs.Path.Order

/-!
# Paths below a directory

Sorted paths are in the order of their components (`le_iff`), tied paths keep their places
(`filter_sort`), and the paths below a directory stand together (`exists_sort_eq`): no path that only
begins with the same bytes comes between them.
-/

namespace SourceGrade

/-! ## Lexicographic orders -/

section lexicographic

variable {α : Type} {le : α → α → Bool} {front rest p q r : List α}

theorem lexicographic_map {β : Type} (le : α → α → Bool) (f : β → α) (as bs : List β) :
    lexicographic le (as.map f) (bs.map f) = lexicographic (fun a b => le (f a) (f b)) as bs := by
  induction as generalizing bs with
  | nil => rfl
  | cons a as ih =>
    cases bs with
    | nil => rfl
    | cons b bs => rw [List.map_cons, List.map_cons, lexicographic, lexicographic, ih]

/-- A list comes before another one if it is less where they first differ, or ends there. -/
theorem lexicographic_iff {lt : α → α → Prop} (hle : ∀ a b, le a b = true ↔ a = b ∨ lt a b)
    (hlt : ∀ a b, lt a b → le b a = false) (as bs : List α) :
    lexicographic le as bs = true ↔ as = bs ∨ List.Lex lt as bs := by
  induction as generalizing bs with
  | nil =>
    cases bs with
    | nil => exact iff_of_true rfl (.inl rfl)
    | cons b bs => exact iff_of_true rfl (.inr .nil)
  | cons a as ih =>
    cases bs with
    | nil => exact iff_of_false nofun (by rintro (h | h) <;> cases h)
    | cons b bs =>
      rw [lexicographic, Bool.and_eq_true, Bool.or_eq_true, Bool.not_eq_true', ih]
      constructor
      · rintro ⟨hab, hrest⟩
        cases (hle a b).1 hab with
        | inl heq =>
          rw [heq] at hab hrest ⊢
          rcases hrest with hba | rfl | hlex
          · rw [hab] at hba
            cases hba
          · exact .inl rfl
          · exact .inr (.cons hlex)
        | inr h => exact .inr (.rel h)
      · rintro (heq | hlex)
        · cases heq
          exact ⟨(hle a a).2 (.inl rfl), .inr (.inl rfl)⟩
        · cases hlex with
          | rel h => exact ⟨(hle a b).2 (.inr h), .inl (hlt a b h)⟩
          | cons h => exact ⟨(hle a a).2 (.inl rfl), .inr (.inr h)⟩

theorem not_lexicographic_append_cons (le : α → α → Bool) (front : List α) (a : α) (rest : List α) :
    lexicographic le (front ++ a :: rest) front = false := by
  induction front with
  | nil => rfl
  | cons b front ih =>
    rw [List.cons_append, lexicographic, ih, Bool.or_false]
    cases le b b <;> rfl

/-- What comes between two lists with a common front has this front, too. -/
theorem isPrefix_of_between (antisymm : ∀ a b, le a b → le b a → a = b)
    (hpq : lexicographic le (front ++ p) q = true) (hqr : lexicographic le q (front ++ r) = true) :
    front <+: q := by
  induction front generalizing q with
  | nil => exact List.nil_prefix
  | cons a front ih =>
    cases q with
    | nil => cases hpq
    | cons b q =>
      rw [List.cons_append, lexicographic, Bool.and_eq_true, Bool.or_eq_true,
        Bool.not_eq_true'] at hpq hqr
      rw [antisymm a b hpq.1 hqr.1, List.cons_prefix_cons]
      refine ⟨rfl, ih (hpq.2.resolve_left fun h => ?_) (hqr.2.resolve_left fun h => ?_)⟩
      · rw [hqr.1] at h
        cases h
      · rw [hpq.1] at h
        cases h

end lexicographic

/-! ## Sorted lists -/

section sorted

variable {α : Type} {le : α → α → Bool} {keep : α → Bool}

/-- In a sorted list the items that pass a test stand together if the test holds between any two of
them. -/
theorem exists_eq_append_filter
    (hconvex : ∀ a b c, keep a = true → keep c = true → le a b = true → le b c = true → keep b = true)
    {list : List α} (hsorted : list.Pairwise fun a b => le a b = true) :
    ∃ before behind, list = before ++ list.filter keep ++ behind ∧
      (∀ a ∈ before, keep a = false) ∧ ∀ a ∈ behind, keep a = false := by
  induction hsorted with
  | nil => exact ⟨[], [], rfl, nofun, nofun⟩
  | @cons a list ha hsorted ih =>
    obtain ⟨before, behind, heq, hbefore, hbehind⟩ := ih
    cases hkeep : keep a with
    | false =>
      refine ⟨a :: before, behind, ?_, List.forall_mem_cons.2 ⟨hkeep, hbefore⟩, hbehind⟩
      rw [List.filter_cons_of_neg (by rw [hkeep]; exact Bool.false_ne_true), List.cons_append,
        List.cons_append, ← heq]
    | true =>
      rw [List.filter_cons_of_pos hkeep]
      cases hfilter : list.filter keep with
      | nil =>
        -- Then the first item is the only one.
        refine ⟨[], list, rfl, nofun, fun b hb => ?_⟩
        have hnot := List.filter_eq_nil_iff.1 hfilter b hb
        exact Bool.eq_false_iff.2 hnot
      | cons last others =>
        -- Whatever came before the others would be between them and the first item.
        have hlast := List.mem_filter.1 (hfilter ▸ List.mem_cons_self : last ∈ list.filter keep)
        rw [hfilter, List.append_assoc] at heq
        have hnil : before = [] := by
          refine List.eq_nil_iff_forall_not_mem.2 fun b hb => ?_
          have hmem : b ∈ list := heq ▸ List.mem_append_left _ hb
          rw [heq] at hsorted
          have hle := (List.pairwise_append.1 hsorted).2.2 b hb last List.mem_cons_self
          have htrue := hconvex a b last hkeep hlast.2 (ha b hmem) hle
          rw [hbefore b hb] at htrue
          cases htrue
        refine ⟨[], behind, ?_, nofun, hbehind⟩
        rw [heq, hnil]
        rfl

end sorted

namespace Path

/-! ## The order of components -/

/-- The root comes first, then a leading dot, then `..`, and then the names by their bytes. -/
def Component.Precedes : Component → Component → Prop
  | .root, d => d ≠ .root
  | .here, .parent | .here, .name _ | .parent, .name _ => True
  | .name bytes, .name bytes' => bytes < bytes'
  | _, _ => False

theorem map_toNat_lt_iff (a b : Bytes) : a.map UInt8.toNat < b.map UInt8.toNat ↔ a < b := by
  induction a generalizing b with
  | nil => cases b <;> simp
  | cons x a ih =>
    cases b with
    | nil => simp
    | cons y b =>
      rw [List.map_cons, List.map_cons, List.cons_lt_cons_iff, List.cons_lt_cons_iff, ih,
        UInt8.lt_iff_toNat_lt, UInt8.toNat_inj]

theorem Component.key_lt_iff (c d : Component) : c.key < d.key ↔ c.Precedes d := by
  cases c <;> cases d <;> simp [key, Precedes, List.cons_lt_cons_iff, map_toNat_lt_iff]

theorem Component.key_le_iff (c d : Component) :
    lexicographic Nat.ble c.key d.key = true ↔ c.key = d.key ∨ c.key < d.key := by
  refine lexicographic_iff (fun a b => ?_) (fun a b h => ?_) c.key d.key
  · rw [Nat.ble_eq, Nat.le_iff_lt_or_eq, or_comm]
  · rw [Bool.eq_false_iff, ne_eq, Nat.ble_eq]
    exact Nat.not_le.2 h

/-- Whether one component comes before another one or is the same. -/
def Component.le (c d : Component) : Bool := lexicographic Nat.ble c.key d.key

theorem Component.le_iff (c d : Component) : le c d = true ↔ c = d ∨ c.Precedes d := by
  rw [le, key_le_iff, key_lt_iff]
  exact or_congr_left ⟨key_injective, congrArg key⟩

theorem Component.not_le_of_precedes (c d : Component) (h : c.Precedes d) : le d c = false := by
  rw [← key_lt_iff] at h
  rw [Bool.eq_false_iff, ne_eq, le, key_le_iff]
  rintro (heq | hlt)
  · rw [heq] at h
    exact List.lt_irrefl _ h
  · exact List.lt_asymm h hlt

theorem Component.le_antisymm (c d : Component) (hcd : le c d) (hdc : le d c) : c = d := by
  cases (le_iff c d).1 hcd with
  | inl heq => exact heq
  | inr h =>
    rw [not_le_of_precedes c d h] at hdc
    cases hdc

variable {p q r dir : Path} {paths : List Path}

theorem le_eq (p q : Path) : le p q = lexicographic Component.le p.components q.components :=
  lexicographic_map _ Component.key p.components q.components

/-- Paths are compared by the first of their components that differ. -/
theorem le_iff (p q : Path) :
    le p q = true ↔ p.components = q.components ∨
      List.Lex Component.Precedes p.components q.components := by
  rw [le_eq]
  exact lexicographic_iff Component.le_iff Component.not_le_of_precedes _ _

/-- Tied paths are those with the same components. -/
theorem tied_iff (p q : Path) :
    le p q = true ∧ le q p = true ↔ p.components = q.components := by
  constructor
  · rintro ⟨hpq, hqp⟩
    exact components_eq_of_le hpq hqp
  · intro heq
    exact ⟨(le_iff p q).2 (.inl heq), (le_iff q p).2 (.inl heq.symm)⟩

/-- Sorting keeps the order of paths with the same components. -/
theorem filter_sort (components : List Component) (paths : List Path) :
    (sort paths).filter (·.components = components) = paths.filter (·.components = components) := by
  have htied : (paths.filter (·.components = components)).Pairwise fun p q => le p q = true := by
    refine List.pairwise_of_forall_mem_list fun p hp q hq => (le_iff p q).2 (.inl ?_)
    rw [of_decide_eq_true (List.mem_filter.1 hp).2, of_decide_eq_true (List.mem_filter.1 hq).2]
  -- A sorted part of a list is still a part of it when the whole list is sorted.
  have hpart : (paths.filter (·.components = components)).Sublist (sort paths) :=
    List.sublist_mergeSort le_trans le_total htied List.filter_sublist
  have htwice : (paths.filter (·.components = components)).filter (·.components = components) =
      paths.filter (·.components = components) :=
    List.filter_eq_self.2 fun p hp => (List.mem_filter.1 hp).2
  have hfilter := hpart.filter (·.components = components)
  rw [htwice] at hfilter
  exact (hfilter.eq_of_length ((sort_perm paths).filter _).length_eq.symm).symm

/-! ## Below a directory -/

/-- The paths with the components of a directory and at least one more. -/
def IsBelow (dir p : Path) : Prop := dir.components <+: p.components ∧ dir.components ≠ p.components

instance (dir p : Path) : Decidable (IsBelow dir p) := inferInstanceAs (Decidable (_ ∧ _))

/-- What comes between two paths below a directory is below it, too. -/
theorem IsBelow.of_between (hp : IsBelow dir p) (hr : IsBelow dir r) (hpq : le p q = true)
    (hqr : le q r = true) : IsBelow dir q := by
  obtain ⟨⟨rest, hrest⟩, hne⟩ := hp
  obtain ⟨⟨rest', hrest'⟩, -⟩ := hr
  rw [le_eq, ← hrest] at hpq
  rw [le_eq, ← hrest'] at hqr
  refine ⟨isPrefix_of_between Component.le_antisymm hpq hqr, fun heq => ?_⟩
  -- The directory itself comes before everything below it.
  cases rest with
  | nil => exact hne ((List.append_nil _).symm.trans hrest)
  | cons c rest =>
    rw [← heq, not_lexicographic_append_cons] at hpq
    cases hpq

/-- The paths below a directory stand together among sorted paths. -/
theorem exists_sort_eq (dir : Path) (paths : List Path) :
    ∃ before behind, sort paths = before ++ (sort paths).filter (IsBelow dir ·) ++ behind ∧
      (∀ p ∈ before, ¬ IsBelow dir p) ∧ ∀ p ∈ behind, ¬ IsBelow dir p := by
  have hconvex (p q r : Path) (hp : decide (IsBelow dir p) = true)
      (hr : decide (IsBelow dir r) = true) (hpq : le p q = true) (hqr : le q r = true) :
      decide (IsBelow dir q) = true :=
    decide_eq_true ((of_decide_eq_true hp).of_between (of_decide_eq_true hr) hpq hqr)
  obtain ⟨before, behind, heq, hbefore, hbehind⟩ :=
    exists_eq_append_filter hconvex (pairwise_sort paths)
  exact ⟨before, behind, heq, fun p hp => of_decide_eq_false (hbefore p hp),
    fun p hp => of_decide_eq_false (hbehind p hp)⟩

end Path

end SourceGrade
