import SourceGrade.Proofs.AssociationList
import SourceGrade.Workers

/-!
# Schedules of workers

A schedule is a list of moves of the dispatcher and the workers. Main statements: no move loses or
repeats a task (`Step.tasks_perm`), every schedule can be gone on with until all is done, within four
moves for each file (`Sound.exists_follow_run`), and what is done then stands in the order of
discovery (`Sound.attempts_eq`).
-/

namespace SourceGrade

namespace Dispatch

variable {limit : Nat} {attempt : Path → Attempt} {d d' : Dispatch} {move : Move}

/-! ## Single moves -/

/-- When a move can be made and what it leads to. -/
inductive Step (limit : Nat) (attempt : Path → Attempt) (d : Dispatch) : Move → Dispatch → Prop where
  | acquire (hwaiting : d.waiting ≠ []) (hfree : d.holding = false) (hpermits : d.permits < limit) :
    Step limit attempt d .acquire { d with holding := true }
  | handOut {job : Nat × Path} {rest : List (Nat × Path)}
      (hwaiting : d.waiting = job :: rest) (hholding : d.holding = true) :
    Step limit attempt d .handOut
      { d with waiting := rest, holding := false, running := d.running ++ [job] }
  | finish {index : Nat} {path : Path} (hrunning : d.running.lookup index = some path) :
    Step limit attempt d (.finish index)
      { d with
        running := d.running.filter (·.1 ≠ index)
        finished := d.finished ++ [(index, attempt path)] }
  | join {index : Nat} {result : Attempt} (hout : d.isHandedOut = true)
      (hfinished : d.finished.lookup index = some result) :
    Step limit attempt d (.join index)
      { d with
        finished := d.finished.filter (·.1 ≠ index)
        joined := d.joined ++ [(index, result)] }

theorem step?_eq_some_iff : d.step? limit attempt move = some d' ↔ Step limit attempt d move d' := by
  constructor
  · intro h
    cases move with
    | acquire =>
      simp only [step?] at h
      split at h
      next hcan =>
        cases h
        simp only [Bool.and_eq_true, Bool.not_eq_true', decide_eq_true_eq, List.isEmpty_eq_false_iff]
          at hcan
        exact .acquire hcan.1.1 hcan.1.2 hcan.2
      next => cases h
    | handOut =>
      simp only [step?] at h
      split at h
      next => cases h
      next job rest hwaiting =>
        split at h
        next hholding => cases h; exact .handOut hwaiting hholding
        next => cases h
    | finish index =>
      simp only [step?] at h
      split at h
      next path hrunning => cases h; exact .finish hrunning
      next => cases h
    | join index =>
      simp only [step?] at h
      split at h
      next hout =>
        split at h
        next result hfinished => cases h; exact .join hout hfinished
        next => cases h
      next => cases h
  · intro h
    cases h with
    | acquire hwaiting hfree hpermits => simp [step?, hwaiting, hfree, hpermits]
    | handOut hwaiting hholding => simp [step?, hwaiting, hholding]
    | finish hrunning => simp only [step?, hrunning]
    | join hout hfinished => simp only [step?, hout, hfinished, if_true]

/-! ## Tasks -/

/-- What the tasks come to: the attempts still to be made and those that are made. -/
def tasks (attempt : Path → Attempt) (d : Dispatch) : List (Nat × Attempt) :=
  (d.waiting ++ d.running).map (fun job => (job.1, attempt job.2)) ++ (d.finished ++ d.joined)

theorem nodup_running_keys (hkeys : ((d.tasks attempt).map Prod.fst).Nodup) :
    (d.running.map Prod.fst).Nodup := by
  have hsub : (d.running.map Prod.fst).Sublist ((d.tasks attempt).map Prod.fst) := by
    simp only [tasks, List.map_append, List.map_map]
    exact (List.sublist_append_right _ _).trans (List.sublist_append_left _ _)
  exact hsub.nodup hkeys

theorem nodup_finished_keys (hkeys : ((d.tasks attempt).map Prod.fst).Nodup) :
    (d.finished.map Prod.fst).Nodup := by
  have hsub : (d.finished.map Prod.fst).Sublist ((d.tasks attempt).map Prod.fst) := by
    simp only [tasks, List.map_append]
    exact (List.sublist_append_left _ _).trans (List.sublist_append_right _ _)
  exact hsub.nodup hkeys

/-- No move loses, repeats or changes a task. -/
theorem Step.tasks_perm (hstep : Step limit attempt d move d')
    (hkeys : ((d.tasks attempt).map Prod.fst).Nodup) :
    (d'.tasks attempt).Perm (d.tasks attempt) := by
  cases hstep with
  | acquire => exact .refl _
  | @handOut job rest hwaiting _ =>
    -- The job only goes from the front of one list to the end of the next.
    have hjobs : (rest ++ (d.running ++ [job])).Perm (d.waiting ++ d.running) := by
      rw [hwaiting, ← List.append_assoc]
      exact List.perm_append_singleton job (rest ++ d.running)
    exact (hjobs.map _).append_right _
  | @finish index path hrunning =>
    have hperm := (perm_cons_filter_of_lookup (nodup_running_keys hkeys) hrunning).map
      fun job => (job.1, attempt job.2)
    simp only [tasks, List.map_append, List.map_cons, List.append_assoc] at hperm ⊢
    refine List.Perm.append_left _ (.trans ?_ (hperm.symm.append_right _))
    -- The finished task comes behind the others and in front of the joined ones.
    have hmiddle := @List.perm_middle _ (index, attempt path)
      ((d.running.filter (·.1 ≠ index)).map (fun job => (job.1, attempt job.2)) ++ d.finished)
      d.joined
    simpa only [List.append_assoc, List.cons_append, List.nil_append] using hmiddle
  | @join index result _ hfinished =>
    -- The joined task comes behind all others.
    have hperm := perm_cons_filter_of_lookup (nodup_finished_keys hkeys) hfinished
    refine List.Perm.append_left _ (.trans ?_ (hperm.symm.append_right _))
    have hlast := List.perm_append_singleton (index, result)
      (d.finished.filter (·.1 ≠ index) ++ d.joined)
    simpa only [List.append_assoc, List.cons_append] using hlast

/-- The number of moves still to be made, and one more unless a permit is held for the next file. -/
def remaining (d : Dispatch) : Nat :=
  4 * d.waiting.length + 2 * d.running.length + d.finished.length + if d.holding then 0 else 1

/-- Every move brings the end nearer by one. -/
theorem Step.remaining_eq (hstep : Step limit attempt d move d')
    (hkeys : ((d.tasks attempt).map Prod.fst).Nodup) : d'.remaining + 1 = d.remaining := by
  unfold remaining
  cases hstep with
  | acquire _ hfree _ =>
    rw [hfree]
    rfl
  | handOut hwaiting hholding =>
    -- A waiting file costs four moves, a running one two, and the permit is given away.
    rw [hwaiting, hholding]
    simp only [List.length_cons, List.length_append, List.length_nil, Bool.false_eq_true, if_true,
      if_false]
    omega
  | finish hrunning =>
    have hlength := (perm_cons_filter_of_lookup (nodup_running_keys hkeys) hrunning).length_eq
    rw [List.length_cons] at hlength
    simp only [List.length_append, List.length_cons, List.length_nil]
    omega
  | join _ hfinished =>
    have hlength := (perm_cons_filter_of_lookup (nodup_finished_keys hkeys) hfinished).length_eq
    rw [List.length_cons] at hlength
    simp only
    omega

theorem isFinal_iff : d.isFinal = true ↔
    d.waiting = [] ∧ d.holding = false ∧ d.running = [] ∧ d.finished = [] := by
  simp [isFinal, isHandedOut, and_assoc]

theorem preferred?_of_isFinal (hfinal : d.isFinal = true) : d.preferred? limit = none := by
  rcases isFinal_iff.1 hfinal with ⟨hwaiting, hholding, hrunning, hfinished⟩
  simp [preferred?, hwaiting, hholding, hrunning, hfinished]

/-! ## Schedules -/

/-- What holds of the scoring of `paths` behind every schedule. -/
structure Sound (attempt : Path → Attempt) (paths : List Path) (d : Dispatch) : Prop where
  tasks : (d.tasks attempt).Perm (paths.zipIdx.map fun job => (job.2, attempt job.1))
  /-- A permit is only taken for a file. -/
  waiting : d.holding = true → d.waiting ≠ []

theorem follow?_append (moves rest : List Move) :
    d.follow? limit attempt (moves ++ rest) =
      (d.follow? limit attempt moves).bind (·.follow? limit attempt rest) := by
  induction moves generalizing d with
  | nil => rfl
  | cons move moves ih =>
    rw [List.cons_append, follow?, follow?, Option.bind_assoc]
    exact congrArg _ (funext fun _ => ih)

namespace Sound

variable {paths : List Path}

theorem start (attempt : Path → Attempt) (paths : List Path) :
    Sound attempt paths (Dispatch.start paths) where
  tasks := by simp [Dispatch.tasks, Dispatch.start, Function.comp_def]
  waiting := by simp [Dispatch.start]

theorem nodup_keys (h : Sound attempt paths d) : ((d.tasks attempt).map Prod.fst).Nodup := by
  have hkeys : (paths.zipIdx.map fun job => (job.2, attempt job.1)).map Prod.fst =
      List.range' 0 paths.length := by
    rw [List.map_map, ← List.zipIdx_map_snd 0 paths]
    rfl
  exact (h.tasks.map Prod.fst).nodup_iff.2 (hkeys ▸ List.nodup_range')

theorem step (h : Sound attempt paths d) (hstep : Step limit attempt d move d') :
    Sound attempt paths d' where
  tasks := (hstep.tasks_perm h.nodup_keys).trans h.tasks
  waiting := by
    cases hstep with
    | acquire hwaiting => exact fun _ => hwaiting
    | handOut => simp
    | finish => exact h.waiting
    | join => exact h.waiting

theorem follow (h : Sound attempt paths d) {moves : List Move}
    (hfollow : d.follow? limit attempt moves = some d') :
    Sound attempt paths d' ∧ d'.remaining + moves.length = d.remaining := by
  induction moves generalizing d with
  | nil =>
    cases hfollow
    exact ⟨h, rfl⟩
  | cons move moves ih =>
    rw [follow?] at hfollow
    rcases Option.bind_eq_some_iff.1 hfollow with ⟨next, hnext, hrest⟩
    have hstep := step?_eq_some_iff.1 hnext
    rcases ih (h.step hstep) hrest with ⟨hsound, hremaining⟩
    have hone := hstep.remaining_eq h.nodup_keys
    refine ⟨hsound, ?_⟩
    rw [List.length_cons]
    omega

theorem remaining_pos (h : Sound attempt paths d) : 0 < d.remaining := by
  unfold remaining
  cases hholding : d.holding with
  | false => simp
  | true =>
    have := List.length_pos_iff.2 (h.waiting hholding)
    omega

/-- Until all is done, the preferred move can be made. -/
theorem exists_step (h : Sound attempt paths d) (hlimit : 0 < limit) (hfinal : d.isFinal = false) :
    ∃ move next, d.preferred? limit = some move ∧ Step limit attempt d move next := by
  unfold preferred?
  cases hholding : d.holding with
  | true =>
    rcases List.exists_cons_of_ne_nil (h.waiting hholding) with ⟨job, rest, hwaiting⟩
    exact ⟨_, _, rfl, .handOut hwaiting hholding⟩
  | false =>
    rw [if_neg Bool.false_ne_true]
    split
    next hcan =>
      simp only [Bool.and_eq_true, Bool.not_eq_true', decide_eq_true_eq, List.isEmpty_eq_false_iff]
        at hcan
      exact ⟨_, _, rfl, .acquire hcan.1 hholding hcan.2⟩
    next hcannot =>
      split
      next index path rest hrunning =>
        have hlookup : d.running.lookup index = some path := by
          rw [hrunning, List.lookup_cons_self]
        exact ⟨_, _, rfl, .finish hlookup⟩
      next hrunning =>
        -- No worker is busy, so that all permits are free and nothing waits for one.
        have hpermits : d.permits < limit := by
          simpa [permits, hrunning, hholding] using hlimit
        have hwaiting : d.waiting = [] := by
          simpa [hpermits] using hcannot
        have hout : d.isHandedOut = true := by simp [isHandedOut, hwaiting, hholding]
        cases hfinished : d.finished with
        | nil => simp [isFinal, hout, hrunning, hfinished] at hfinal
        | cons done rest =>
          have hlookup : d.finished.lookup done.1 = some done.2 := by
            rw [hfinished, List.lookup_cons_self]
          exact ⟨_, _, rfl, .join hout hlookup⟩

/-- With as many moves as are still to be made, the preferred schedule comes to the end. -/
theorem exists_follow_run (h : Sound attempt paths d) (hlimit : 0 < limit) (fuel : Nat)
    (hfuel : d.remaining ≤ fuel + 1) :
    ∃ moves, d.follow? limit attempt moves = some (d.run limit attempt fuel) ∧
      (d.run limit attempt fuel).isFinal = true := by
  induction fuel generalizing d with
  | zero =>
    refine ⟨[], rfl, ?_⟩
    refine Bool.of_not_eq_false fun hfinal => ?_
    rcases h.exists_step hlimit hfinal with ⟨_, next, -, hstep⟩
    have hone := hstep.remaining_eq h.nodup_keys
    have hpos := (h.step hstep).remaining_pos
    omega
  | succ fuel ih =>
    cases hfinal : d.isFinal with
    | true =>
      refine ⟨[], ?_, ?_⟩ <;> rw [run, preferred?_of_isFinal hfinal, Option.bind_none]
      · rfl
      · exact hfinal
    | false =>
      rcases h.exists_step hlimit hfinal with ⟨move, next, hpreferred, hstep⟩
      have hone := hstep.remaining_eq h.nodup_keys
      rcases ih (h.step hstep) (by omega) with ⟨moves, hmoves, hlast⟩
      have hnext := step?_eq_some_iff.2 hstep
      have hrun : d.run limit attempt (fuel + 1) = next.run limit attempt fuel := by
        rw [run, hpreferred, Option.bind_some, hnext]
      rw [hrun]
      refine ⟨move :: moves, ?_, hlast⟩
      rw [follow?, hnext, Option.bind_some, hmoves]

/-- When all is done, every file has been attempted once, and the attempts are in order. -/
theorem attempts_eq (h : Sound attempt paths d) (hfinal : d.isFinal = true) :
    d.attempts = paths.map attempt := by
  rcases isFinal_iff.1 hfinal with ⟨hwaiting, -, hrunning, hfinished⟩
  have hjoined : d.joined.Perm (paths.zipIdx.map fun job => (job.2, attempt job.1)) := by
    simpa only [Dispatch.tasks, hwaiting, hrunning, hfinished, List.append_nil, List.map_nil,
      List.nil_append] using h.tasks
  have hsorted : d.joined.mergeSort (fun x y => decide (x.1 ≤ y.1)) =
      paths.zipIdx.map fun job => (job.2, attempt job.1) := by
    have hpairwise : (d.joined.mergeSort fun x y => decide (x.1 ≤ y.1)).Pairwise
        fun x y => decide (x.1 ≤ y.1) = true :=
      List.pairwise_mergeSort (by simp; omega) (by simp; omega) _
    refine List.Perm.eq_of_pairwise ?_ hpairwise ?_ ((List.mergeSort_perm _ _).trans hjoined)
    · -- Two tasks with the same index are at the same file.
      intro x y hx hy hxy hyx
      have hx := (List.mergeSort_perm _ _).trans hjoined |>.mem_iff.1 hx
      rcases List.mem_map.1 hx with ⟨⟨p, i⟩, hp, rfl⟩
      rcases List.mem_map.1 hy with ⟨⟨q, j⟩, hq, rfl⟩
      simp only [decide_eq_true_eq] at hxy hyx
      have hij : i = j := Nat.le_antisymm hxy hyx
      rw [List.mem_zipIdx_iff_getElem?] at hp hq
      subst hij
      rw [Option.some.inj (hp.symm.trans hq)]
    · rw [List.pairwise_map]
      have hlt : (paths.zipIdx.map Prod.snd).Pairwise (· < ·) := by
        rw [List.zipIdx_map_snd]
        exact List.pairwise_lt_range'
      exact (List.pairwise_map.1 hlt).imp fun hlt => decide_eq_true (Nat.le_of_lt hlt)
  -- Sorting by index brings back the order in which the files were numbered.
  rw [attempts, hsorted, List.map_map]
  calc paths.zipIdx.map (Prod.snd ∘ fun job => (job.2, attempt job.1))
      = (paths.zipIdx.map Prod.fst).map attempt := by rw [List.map_map]; rfl
    _ = paths.map attempt := by rw [List.zipIdx_map_fst]

end Sound

end Dispatch

end SourceGrade
