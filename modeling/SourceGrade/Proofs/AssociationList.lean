/-!
# Association lists

The entries of a directory, the members of an object and the tasks of workers are lists of pairs with
different keys, where a pair is the same as what is found under its key.
-/

namespace SourceGrade

section

variable {α β : Type} [BEq α] [LawfulBEq α] {list : List (α × β)} {key : α} {value : β}

theorem mem_of_lookup (h : list.lookup key = some value) : (key, value) ∈ list := by
  rcases List.lookup_eq_some_iff.1 h with ⟨before, behind, rfl, -⟩
  exact List.mem_append_right _ List.mem_cons_self

/-- A pair is found under its key. -/
theorem lookup_of_mem (hkeys : (list.map (·.1)).Nodup) (hmem : (key, value) ∈ list) :
    list.lookup key = some value := by
  induction list with
  | nil => cases hmem
  | cons first rest ih =>
    rw [List.map_cons, List.nodup_cons] at hkeys
    rw [List.lookup_cons]
    cases List.mem_cons.1 hmem with
    | inl h => rw [← h, beq_self_eq_true]
    | inr h =>
      have hne : key ≠ first.1 := fun heq => hkeys.1 (heq ▸ List.mem_map_of_mem (f := (·.1)) h)
      rw [beq_false_of_ne hne]
      exact ih hkeys.2 h

theorem lookup_eq_none_of_notMem (h : key ∉ list.map (·.1)) : list.lookup key = none := by
  rw [List.lookup_eq_none_iff]
  intro pair hpair
  rw [bne_iff_ne]
  exact fun heq => h (heq ▸ List.mem_map_of_mem (f := (·.1)) hpair)

end

/-- An association list with different keys is the found pair and all others. -/
theorem perm_cons_filter_of_lookup {list : List (Nat × α)} {key : Nat} {value : α}
    (hkeys : (list.map Prod.fst).Nodup) (hlookup : list.lookup key = some value) :
    list.Perm ((key, value) :: list.filter (·.1 ≠ key)) := by
  rcases List.lookup_eq_some_iff.1 hlookup with ⟨before, behind, rfl, hbefore⟩
  have hbehind : ∀ pair ∈ behind, pair.1 ≠ key := by
    intro pair hpair heq
    rw [List.map_append, List.map_cons] at hkeys
    have htail := (List.nodup_append.1 hkeys).2.1
    exact (List.nodup_cons.1 htail).1 (List.mem_map.2 ⟨pair, hpair, heq⟩)
  have hfilter : (before ++ (key, value) :: behind).filter (·.1 ≠ key) = before ++ behind := by
    rw [List.filter_append, List.filter_cons_of_neg (by simp)]
    congr 1
    · apply List.filter_eq_self.2
      intro pair hpair
      have := hbefore pair hpair
      simp only [bne_iff_ne, ne_eq] at this
      simp only [ne_eq, decide_eq_true_eq]
      exact fun h => this h.symm
    · apply List.filter_eq_self.2
      intro pair hpair
      simpa using hbehind pair hpair
  rw [hfilter]
  exact List.perm_middle

end SourceGrade
