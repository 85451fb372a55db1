import SourceGrade.Proofs.Workers.Schedule

/-!
# Permits of workers

A dispatch with the semaphore that its permits come from: the dispatcher waits for a permit, takes it
out and gives it to the worker of the next file, who puts it back in the end. Main statements: such a
pool makes the moves of a dispatch that counts its workers (`Pool.Sound.map_dispatch_follow?`), permits
are neither lost nor made up and files are handed out in order (`Pool.Sound.follow`), and nobody waits for
ever (`Pool.Sound.exists_step`).
-/

namespace SourceGrade

open Dispatch (Move)

/-! ## Semaphores -/

structure Semaphore where
  /-- The permits that there are. -/
  total : Nat
  /-- The permits that nobody holds. -/
  free : Nat

namespace Semaphore

/-- A semaphore with all of its permits, unless there cannot be so many. -/
def new? (permits : Nat) : Option Semaphore :=
  if permits ≤ maxPermits then some ⟨permits, permits⟩ else none

/-- Takes a permit. As long as none is free, this cannot be done. -/
def acquire? (s : Semaphore) : Option Semaphore :=
  if 0 < s.free then some { s with free := s.free - 1 } else none

def release (s : Semaphore) : Semaphore := { s with free := s.free + 1 }

def held (s : Semaphore) : Nat := s.total - s.free

/-- What a move of the dispatcher or of a worker does to the semaphore. -/
def exchange? (s : Semaphore) : Move → Option Semaphore
  | .acquire => s.acquire?
  | .handOut => some s
  | .finish _ => some s.release
  | .join _ => some s

end Semaphore

/-! ## Pools -/

/-- A dispatch with its semaphore. -/
structure Pool where
  dispatch : Dispatch
  semaphore : Semaphore
  /-- The indices of the files that have been handed out, in order. -/
  handedOut : List Nat := []

namespace Pool

def start (semaphore : Semaphore) (paths : List Path) : Pool where
  dispatch := .start paths
  semaphore

/-- The state behind a move, unless the move cannot be made. The semaphore alone decides whether there
is a permit, so that the dispatch takes it that there is always one more. -/
def step? (attempt : Path → Attempt) (p : Pool) (move : Move) : Option Pool :=
  (p.semaphore.exchange? move).bind fun semaphore =>
    (p.dispatch.step? (p.dispatch.permits + 1) attempt move).map fun dispatch =>
      { dispatch, semaphore
        handedOut :=
          if move = .handOut then p.handedOut ++ (p.dispatch.waiting.take 1).map Prod.fst
          else p.handedOut }

/-- The state behind several moves, unless one of them cannot be made. -/
def follow? (attempt : Path → Attempt) (p : Pool) : List Move → Option Pool
  | [] => some p
  | move :: rest => (p.step? attempt move).bind (follow? attempt · rest)

variable {attempt : Path → Attempt} {paths : List Path} {p p' : Pool} {move : Move}

/-- Every permit is free or held by the dispatcher or a worker. -/
def Balanced (p : Pool) : Prop := p.semaphore.free + p.dispatch.permits = p.semaphore.total

theorem step?_eq_some_iff : p.step? attempt move = some p' ↔
    p.semaphore.exchange? move = some p'.semaphore ∧
      Dispatch.Step (p.dispatch.permits + 1) attempt p.dispatch move p'.dispatch ∧
      p'.handedOut = if move = .handOut then p.handedOut ++ (p.dispatch.waiting.take 1).map Prod.fst
        else p.handedOut := by
  rw [step?, Option.bind_eq_some_iff]
  constructor
  · rintro ⟨semaphore, hexchange, hstep⟩
    obtain ⟨dispatch, hdispatch, rfl⟩ := Option.map_eq_some_iff.1 hstep
    exact ⟨hexchange, Dispatch.step?_eq_some_iff.1 hdispatch, rfl⟩
  · rintro ⟨hexchange, hdispatch, hhandedOut⟩
    refine ⟨p'.semaphore, hexchange, ?_⟩
    rw [Dispatch.step?_eq_some_iff.2 hdispatch, Option.map_some, ← hhandedOut]

/-- A dispatch that counts its workers waits exactly when the semaphore has no free permit. -/
theorem Balanced.map_dispatch_step? (h : p.Balanced) (move : Move) :
    (p.step? attempt move).map dispatch =
      p.dispatch.step? p.semaphore.total attempt move := by
  unfold Balanced at h
  cases move with
  | acquire =>
    by_cases hfree : 0 < p.semaphore.free
    · have hlimit : p.dispatch.permits < p.semaphore.total := by omega
      simp [step?, Semaphore.exchange?, Semaphore.acquire?, Dispatch.step?, hfree, hlimit]
    · have hlimit : ¬ p.dispatch.permits < p.semaphore.total := by omega
      simp [step?, Semaphore.exchange?, Semaphore.acquire?, Dispatch.step?, hfree, hlimit]
  | handOut | finish index | join index =>
    show ((p.dispatch.step? _ attempt _).map _).map dispatch = _
    rw [Option.map_map]
    exact Option.map_id'

/-- The indices of the files that are done, joined or not. -/
def done (p : Pool) : List Nat := (p.dispatch.finished ++ p.dispatch.joined).map Prod.fst

/-- The indices of the files that have been handed out and are not done. -/
def unfinished (p : Pool) : List Nat := p.handedOut.filter (· ∉ p.done)

/-- What holds of a pool behind every list of moves. -/
structure Sound (attempt : Path → Attempt) (paths : List Path) (p : Pool) : Prop where
  dispatch : Dispatch.Sound attempt paths p.dispatch
  balanced : p.Balanced
  handedOut : p.handedOut ++ p.dispatch.waiting.map Prod.fst = List.range paths.length

namespace Sound

theorem start (attempt : Path → Attempt) (paths : List Path) {jobs : Nat} :
    Sound attempt paths (.start ⟨jobs, jobs⟩ paths) where
  dispatch := .start attempt paths
  balanced := rfl
  handedOut := by
    show [] ++ (paths.zipIdx.map fun job => (job.2, job.1)).map Prod.fst = _
    rw [List.nil_append, List.map_map, List.range_eq_range', ← List.zipIdx_map_snd]
    rfl

/-- A permit goes from the semaphore to the dispatcher, from the dispatcher to a worker, and from the
worker back to the semaphore. -/
theorem step (h : Sound attempt paths p) (hstep : p.step? attempt move = some p') :
    Sound attempt paths p' ∧ p'.semaphore.total = p.semaphore.total := by
  obtain ⟨hexchange, hdispatch, hhandedOut⟩ := step?_eq_some_iff.1 hstep
  have hbalanced := h.balanced
  have hrange := h.handedOut
  have hsound := h.dispatch.step hdispatch
  -- The dispatch has done its part; what each move does with the permit is left.
  obtain ⟨dispatch', semaphore', handedOut'⟩ := p'
  unfold Balanced Dispatch.permits at hbalanced
  dsimp only at hexchange hdispatch hhandedOut hsound ⊢
  rw [hhandedOut]
  cases hdispatch with
  | acquire hwaiting hfree hpermits =>
    simp only [Semaphore.exchange?, Semaphore.acquire?] at hexchange
    split at hexchange
    next hsome =>
      cases hexchange
      refine ⟨⟨hsound, ?_, hrange⟩, rfl⟩
      rw [hfree] at hbalanced
      simp only [Balanced, Dispatch.permits, Bool.false_eq_true, if_false, if_true] at hbalanced ⊢
      omega
    next => cases hexchange
  | @handOut job rest hwaiting hholding =>
    cases hexchange
    refine ⟨⟨hsound, ?_, ?_⟩, rfl⟩
    · rw [hholding] at hbalanced
      simp only [Balanced, Dispatch.permits, List.length_append, List.length_singleton, if_true,
        Bool.false_eq_true, if_false] at hbalanced ⊢
      omega
    · -- The index goes from the front of the files that wait to the end of those handed out.
      rw [hwaiting, List.map_cons] at hrange
      rw [hwaiting, if_pos rfl, List.append_assoc]
      exact hrange
  | @finish index path hrunning =>
    cases hexchange
    refine ⟨⟨hsound, ?_, hrange⟩, rfl⟩
    -- Indices are distinct, so that one worker less holds a permit.
    have hlength := (perm_cons_filter_of_lookup
      (Dispatch.nodup_running_keys h.dispatch.nodup_keys) hrunning).length_eq
    rw [List.length_cons] at hlength
    simp only [Balanced, Dispatch.permits, Semaphore.release]
    omega
  | join hout hfinished =>
    cases hexchange
    exact ⟨⟨hsound, hbalanced, hrange⟩, rfl⟩

theorem follow (h : Sound attempt paths p) {moves : List Move}
    (hfollow : p.follow? attempt moves = some p') :
    Sound attempt paths p' ∧ p'.semaphore.total = p.semaphore.total := by
  induction moves generalizing p with
  | nil =>
    cases hfollow
    exact ⟨h, rfl⟩
  | cons move moves ih =>
    rw [follow?] at hfollow
    rcases Option.bind_eq_some_iff.1 hfollow with ⟨next, hnext, hrest⟩
    obtain ⟨hsound, htotal⟩ := h.step hnext
    obtain ⟨hlast, htotal'⟩ := ih hsound hrest
    exact ⟨hlast, htotal'.trans htotal⟩

/-- A pool can make the moves that its dispatch can make, and no others. -/
theorem map_dispatch_follow? (h : Sound attempt paths p) (moves : List Move) :
    (p.follow? attempt moves).map Pool.dispatch =
      p.dispatch.follow? p.semaphore.total attempt moves := by
  induction moves generalizing p with
  | nil => rfl
  | cons move moves ih =>
    rw [follow?, Dispatch.follow?, ← h.balanced.map_dispatch_step? move]
    cases hnext : p.step? attempt move with
    | none => rfl
    | some next =>
      obtain ⟨hsound, htotal⟩ := h.step hnext
      rw [Option.bind_some, Option.map_some, Option.bind_some, ih hsound, htotal]

/-- Until all is done, some move can be made. -/
theorem exists_step (h : Sound attempt paths p) (htotal : 0 < p.semaphore.total)
    (hfinal : p.dispatch.isFinal = false) : ∃ move p', p.step? attempt move = some p' := by
  obtain ⟨move, next, -, hstep⟩ := h.dispatch.exists_step htotal hfinal
  have hnext := Dispatch.step?_eq_some_iff.2 hstep
  rw [← h.balanced.map_dispatch_step? move] at hnext
  obtain ⟨p', hp', -⟩ := Option.map_eq_some_iff.1 hnext
  exact ⟨move, p', hp'⟩

/-! ### Files -/

theorem nodup_handedOut (h : Sound attempt paths p) : p.handedOut.Nodup := by
  have hall : (p.handedOut ++ p.dispatch.waiting.map Prod.fst).Nodup :=
    h.handedOut ▸ List.nodup_range
  exact (List.nodup_append.1 hall).1

theorem handedOut_of_isFinal (h : Sound attempt paths p) (hfinal : p.dispatch.isFinal = true) :
    p.handedOut = List.range paths.length := by
  have hrange := h.handedOut
  rw [(Dispatch.isFinal_iff.1 hfinal).1, List.map_nil, List.append_nil] at hrange
  exact hrange

/-- The files that have been handed out are with their workers or done. -/
theorem perm_handedOut (h : Sound attempt paths p) :
    p.handedOut.Perm (p.dispatch.running.map Prod.fst ++ p.done) := by
  have hkeys := h.dispatch.tasks.map Prod.fst
  have hrange : (paths.zipIdx.map fun job => (job.2, attempt job.1)).map Prod.fst =
      p.handedOut ++ p.dispatch.waiting.map Prod.fst := by
    rw [h.handedOut, List.map_map, List.range_eq_range', ← List.zipIdx_map_snd]
    rfl
  have htasks : (p.dispatch.tasks attempt).map Prod.fst =
      p.dispatch.waiting.map Prod.fst ++ (p.dispatch.running.map Prod.fst ++ p.done) := by
    simp [Dispatch.tasks, done, Function.comp_def]
  rw [hrange, htasks] at hkeys
  -- The files that wait are on both sides.
  have hswap := hkeys.trans List.perm_append_comm
  exact ((List.perm_append_left_iff _).1 hswap).symm

theorem perm_unfinished (h : Sound attempt paths p) :
    (p.dispatch.running.map Prod.fst).Perm p.unfinished := by
  have hperm := h.perm_handedOut
  have hnodup := hperm.nodup_iff.1 h.nodup_handedOut
  obtain ⟨hrunning, -, hapart⟩ := List.nodup_append.1 hnodup
  refine (List.perm_ext_iff_of_nodup hrunning (h.nodup_handedOut.filter _)).2 fun index => ?_
  rw [List.mem_filter, hperm.mem_iff, List.mem_append, decide_eq_true_eq]
  constructor
  · intro hmem
    exact ⟨Or.inl hmem, fun hdone => hapart index hmem index hdone rfl⟩
  · rintro ⟨hmem | hmem, hnot⟩
    · exact hmem
    · exact absurd hmem hnot

end Sound

/-! ## Runs -/

/-- However the dispatcher and the workers take turns, with any number of permits that a semaphore can
have, a pool makes the moves of its dispatch. In every state that it comes to, the permits held are
those of the files handed out and not finished, and one more if the dispatcher holds one; there are
never more of them than `jobs`. No file is handed out twice, and in the end every one has been, in order.
Until then some move can be made. -/
theorem permits_conserved (attempt : Path → Attempt) (paths : List Path) {jobs : Nat}
    {semaphore : Semaphore} (hjobs : 0 < jobs) (hnew : Semaphore.new? jobs = some semaphore) :
    (∀ moves, ((start semaphore paths).follow? attempt moves).map dispatch =
      (Dispatch.start paths).follow? jobs attempt moves) ∧
    ∀ moves p, (start semaphore paths).follow? attempt moves = some p →
      p.semaphore.held = p.unfinished.length + (if p.dispatch.holding then 1 else 0) ∧
      p.semaphore.held ≤ jobs ∧ p.semaphore.free + p.semaphore.held = jobs ∧
      p.handedOut.Nodup ∧ (∀ index ∈ p.handedOut, index < paths.length) ∧
      (p.dispatch.isFinal = true → p.handedOut = List.range paths.length) ∧
      (p.dispatch.isFinal = false → ∃ move next, p.step? attempt move = some next) := by
  have hsemaphore : semaphore = ⟨jobs, jobs⟩ := by
    unfold Semaphore.new? at hnew
    split at hnew
    next => exact (Option.some.inj hnew).symm
    next => cases hnew
  rw [hsemaphore]
  refine ⟨(Sound.start attempt paths).map_dispatch_follow?, fun moves p hfollow => ?_⟩
  obtain ⟨hsound, htotal⟩ := (Sound.start attempt paths).follow hfollow
  have htotal : p.semaphore.total = jobs := htotal
  have hbalanced := hsound.balanced
  unfold Balanced Dispatch.permits at hbalanced
  have hlength := hsound.perm_unfinished.length_eq
  rw [List.length_map] at hlength
  refine ⟨?_, ?_, ?_, hsound.nodup_handedOut, fun index hmem => ?_, hsound.handedOut_of_isFinal,
    hsound.exists_step (htotal ▸ hjobs)⟩
  · unfold Semaphore.held
    omega
  · unfold Semaphore.held
    omega
  · unfold Semaphore.held
    omega
  · have hrange : index ∈ p.handedOut ++ p.dispatch.waiting.map Prod.fst :=
      List.mem_append_left _ hmem
    rw [hsound.handedOut] at hrange
    exact List.mem_range.1 hrange

/-- With two permits for three files, the second file is done and gives its permit to the third one
while the first one is still worked at; then the dispatcher has to wait. -/
def tightMoves : List Move :=
  [.acquire, .handOut, .acquire, .handOut, .finish 1, .acquire, .handOut]

theorem permits_conserved_tight :
    0 < 2 ∧ Semaphore.new? 2 = some ⟨2, 2⟩ ∧
    ∃ p, (start ⟨2, 2⟩ [[0x61], [0x62], [0x63]]).follow? (fun path => ⟨path, .error (.other [])⟩)
        tightMoves = some p ∧
      p.handedOut = [0, 1, 2] ∧ p.unfinished = [0, 2] ∧ p.semaphore.held = 2 ∧
      p.semaphore.free = 0 ∧ p.dispatch.isFinal = false ∧
      ∃ move next, p.step? (fun path => ⟨path, .error (.other [])⟩) move = some next := by
  have hnew : Semaphore.new? 2 = some ⟨2, 2⟩ := rfl
  obtain ⟨-, hstates⟩ := permits_conserved (fun path => ⟨path, .error (.other [])⟩)
    [[0x61], [0x62], [0x63]] (by decide : 0 < 2) hnew
  obtain ⟨hheld, -, hfree, -, -, -, hstep⟩ := hstates tightMoves _ rfl
  exact ⟨by decide, hnew, _, rfl, rfl, rfl, hheld, rfl, rfl, hstep rfl⟩

end Pool

end SourceGrade
