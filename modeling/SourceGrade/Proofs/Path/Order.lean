import SourceGrade.Path.Order

/-!
# Sorted paths

Paths are ordered totally, and tied exactly where their components are the same. Paths without ties
are therefore sorted in one way only, whatever order they come in.
-/

namespace SourceGrade.Path

theorem Component.key_injective {c d : Component} (h : c.key = d.key) : c = d := by
  cases c with
  | name bytes =>
    cases d with
    | name bytes' =>
      have hnumbers := List.tail_eq_of_cons_eq h
      rw [(List.map_inj_right fun _ _ => UInt8.toNat_inj.1).1 hnumbers]
    | _ => simp [key] at h
  | _ => cases d <;> simp [key] at h ⊢

theorem le_total (p q : Path) : le p q || le q p :=
  lexicographic_total (lexicographic_total fun a b => by simpa using Nat.le_total a b) _ _

theorem le_trans (p q r : Path) (hpq : le p q) (hqr : le q r) : le p r :=
  lexicographic_trans (lexicographic_trans fun a b c => by simpa using Nat.le_trans) _ _ _ hpq hqr

theorem components_eq_of_le {p q : Path} (hpq : le p q) (hqp : le q p) :
    p.components = q.components := by
  have hkeys : p.sortKey = q.sortKey :=
    lexicographic_antisymm (lexicographic_antisymm fun a b => by simpa using Nat.le_antisymm)
      _ _ hpq hqp
  exact (List.map_inj_right fun _ _ => Component.key_injective).1 hkeys

theorem sort_perm (paths : List Path) : (sort paths).Perm paths := List.mergeSort_perm paths le

theorem pairwise_sort (paths : List Path) : (sort paths).Pairwise fun p q => le p q = true :=
  List.pairwise_mergeSort le_trans le_total paths

variable {paths paths' : List Path}

theorem pairwise_sort_of_nodup (hdistinct : (paths.map components).Nodup) :
    (sort paths).Pairwise fun p q => le p q = true ∧ p.components ≠ q.components := by
  have hsorted : ((sort paths).map components).Nodup :=
    ((sort_perm paths).map components).nodup_iff.2 hdistinct
  exact (pairwise_sort paths).and (List.pairwise_map.1 hsorted)

theorem sort_eq_of_perm (hperm : paths.Perm paths') (hdistinct : (paths.map components).Nodup) :
    sort paths = sort paths' := by
  have hdistinct' : (paths'.map components).Nodup :=
    (hperm.map components).nodup_iff.1 hdistinct
  have hsorted : (sort paths).Perm (sort paths') :=
    (sort_perm paths).trans (hperm.trans (sort_perm paths').symm)
  refine List.Perm.eq_of_pairwise ?_ (pairwise_sort_of_nodup hdistinct)
    (pairwise_sort_of_nodup hdistinct') hsorted
  rintro p q - - ⟨hpq, hne⟩ ⟨hqp, -⟩
  exact absurd (components_eq_of_le hpq hqp) hne

end SourceGrade.Path
