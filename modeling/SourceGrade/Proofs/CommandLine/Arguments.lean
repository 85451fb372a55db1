import SourceGrade.Proofs.CommandLine.Given

/-!
# Settling early

An argument that waits may as well be looked at before the next ones are read: the arguments come to the
same (`foldlM_settle`), and in front of arguments that are understood it can be looked at
(`exists_settle`).
-/

namespace SourceGrade.CommandLine

namespace Reading

variable {r r' s t : Reading} {setting : Setting} {value : Bytes}

theorem assign_eq_ok_iff : r.assign setting value = .ok s ↔
    r.given.has setting = false ∧ ∃ given, r.given.set setting value = .ok given ∧
      s = { r with given } := by
  unfold assign
  cases hhas : r.given.has setting with
  | true => simp [fail]
  | false =>
    cases hset : r.given.set setting value with
    | error e => simp [fail]
    | ok given => simp [eq_comm]

/-- The two dashes change nothing about what waits. -/
theorem settle_onlyPaths (r : Reading) : settle { r with onlyPaths := true } =
    (fun s : Reading => { s with onlyPaths := true }) <$> r.settle := by
  unfold settle
  cases r.pending with
  | none => rfl
  | some pending =>
    cases pending with
    | path path =>
      simp only
      cases Given.nonempty path <;> rfl
    | setting setting value =>
      cases value with
      | none => rfl
      | some value =>
        simp only [assign]
        cases r.given.has setting with
        | true => rfl
        | false => cases r.given.set setting value <;> rfl

/-- What is given when the argument that waits has been looked at. -/
inductive Settles (r : Reading) : Given → Prop where
  | nothing (hpending : r.pending = none) : Settles r r.given
  | setting {setting : Setting} {value : Bytes} {given : Given}
      (hpending : r.pending = some (.setting setting (some value)))
      (hnew : r.given.has setting = false) (hset : r.given.set setting value = .ok given) :
    Settles r given
  | path {path : Bytes} (hpending : r.pending = some (.path path)) (hpath : path ≠ []) :
    Settles r { r.given with path := some path }

theorem settle_eq_ok_iff : r.settle = .ok s ↔
    Settles r s.given ∧ s = { r with given := s.given, pending := none } := by
  unfold settle
  constructor
  · intro h
    split at h
    next hpending =>
      cases h
      exact ⟨.nothing hpending, rfl⟩
    next => cases h
    next setting value hpending =>
      obtain ⟨hnew, given, hset, rfl⟩ := assign_eq_ok_iff.1 h
      exact ⟨.setting hpending hnew hset, rfl⟩
    next path hpending =>
      cases path with
      | nil => cases h
      | cons b path =>
        cases h
        exact ⟨.path hpending (List.cons_ne_nil b path), rfl⟩
  · rintro ⟨hsettles, hs⟩
    rw [hs]
    generalize s.given = given at hsettles
    cases hsettles with
    | nothing hpending => simp only [hpending]
    | setting hpending hnew hset =>
      simp only [hpending]
      exact assign_eq_ok_iff.2 ⟨hnew, given, hset, rfl⟩
    | @path path hpending hpath =>
      simp only [hpending]
      cases path with
      | nil => exact absurd rfl hpath
      | cons b path => rfl

section early

variable (h : r.settle = .ok s)

include h

theorem settle_settled : s.settle = .ok s := by
  have hs := (settle_eq_ok_iff.1 h).2
  have hpending : s.pending = none := by rw [hs]
  refine settle_eq_ok_iff.2 ⟨.nothing hpending, ?_⟩
  rw [← hpending]

theorem onlyPaths_of_settle : s.onlyPaths = r.onlyPaths := by
  rw [(settle_eq_ok_iff.1 h).2]

theorem wantsValue_of_settle : r.wantsValue = none ∧ s.wantsValue = none := by
  obtain ⟨hsettles, hs⟩ := settle_eq_ok_iff.1 h
  rw [hs]
  generalize s.given = given at hsettles
  cases hsettles with
  | nothing hpending | setting hpending | path hpending =>
    simp only [wantsValue, hpending, and_self]

theorem meet_of_settle (switch : Switch) : r.meet switch = s.meet switch := by
  have hs := settle_settled h
  cases switch <;> simp only [meet, h, hs]

theorem meetWith_of_settle (value : Bytes) (switch : Switch) :
    r.meetWith value switch = s.meetWith value switch := by
  have hs := settle_settled h
  cases switch <;> simp only [meetWith, h, hs]

theorem readLong_of_settle (argument : Bytes) : r.readLong argument = s.readLong argument := by
  unfold readLong
  simp only [meet_of_settle h, meetWith_of_settle h]

theorem readShort_of_settle (letter : UInt8) (rest : Bytes) :
    r.readShort (letter :: rest) = s.readShort (letter :: rest) := by
  rw [readShort, readShort]
  simp only [meet_of_settle h, meetWith_of_settle h]

/-- The path that waits counts as much as the one that has been looked at. -/
theorem readPath_of_settle (argument : Bytes) : r.readPath argument = s.readPath argument := by
  have hsettled := settle_settled h
  obtain ⟨hsettles, hs⟩ := settle_eq_ok_iff.1 h
  have hpending : s.pending = none := by rw [hs]
  unfold readPath
  rw [h, hsettled, hpending]
  generalize s.given = given at hsettles hs
  cases hsettles with
  | nothing hnone => rw [hnone]
  | setting hsome hnew hset =>
    rw [hsome, (Given.set_eq_ok_iff.1 hset).path]
    cases r.given.path <;> rfl
  | path hsome hpath =>
    rw [hsome]
    cases r.given.path <;> rfl

theorem readPlain_of_settle (argument : Bytes) : r.readPlain argument = s.readPlain argument := by
  unfold readPlain
  rw [(wantsValue_of_settle h).1, (wantsValue_of_settle h).2]
  exact readPath_of_settle h argument

/-- The next argument is read alike; only the two dashes do not look at what waits. -/
theorem read_of_settle (argument : Bytes) : r.read argument = s.read argument ∨
    r.read argument = .ok { r with onlyPaths := true } ∧
      s.read argument = .ok { s with onlyPaths := true } := by
  unfold read
  rw [onlyPaths_of_settle h]
  cases r.onlyPaths with
  | true => exact Or.inl (readPath_of_settle h argument)
  | false =>
    rw [if_neg Bool.false_ne_true, if_neg Bool.false_ne_true]
    split
    next first second rest =>
      by_cases hlong : first = dash ∧ second = dash
      · rw [if_pos hlong, if_pos hlong]
        by_cases hrest : rest = []
        · rw [if_pos hrest, if_pos hrest]
          exact Or.inr ⟨rfl, rfl⟩
        · rw [if_neg hrest, if_neg hrest]
          exact Or.inl (readLong_of_settle h rest)
      · rw [if_neg hlong, if_neg hlong, readShort_of_settle h, readPlain_of_settle h]
        exact Or.inl rfl
    next => exact Or.inl (readPlain_of_settle h argument)

end early

theorem foldlM_settle (h : r.settle = .ok s) (arguments : List Bytes) :
    arguments.foldlM read r >>= settle = arguments.foldlM read s >>= settle := by
  induction arguments generalizing r s with
  | nil => exact h.trans (settle_settled h).symm
  | cons argument arguments ih =>
    rw [List.foldlM_cons, List.foldlM_cons]
    rcases read_of_settle h argument with heq | ⟨hr, hs⟩
    · rw [heq]
    · rw [hr, hs]
      refine ih ?_
      rw [settle_onlyPaths, h]
      rfl

/-- What waits is only ever found at fault. -/
theorem exists_usage_of_settle {stop : Stop} (h : r.settle = .error stop) : ∃ e, stop = .usage e := by
  have hassign : ∀ {r : Reading} {setting : Setting} {value : Bytes},
      r.assign setting value = .error stop → ∃ e, stop = .usage e := by
    intro r setting value h
    unfold assign at h
    split at h
    next => exact ⟨_, (Except.error.inj h).symm⟩
    next =>
      split at h
      next => cases h
      next => exact ⟨_, (Except.error.inj h).symm⟩
  unfold settle at h
  split at h
  next => cases h
  next => exact ⟨_, (Except.error.inj h).symm⟩
  next => exact hassign h
  next =>
    split at h
    next => cases h
    next => exact ⟨_, (Except.error.inj h).symm⟩

section unsettled

variable {e : UsageError} (h : r.settle = fail e)

include h

theorem meet_error (switch : Switch) : ∃ e', r.meet switch = fail e' := by
  cases switch <;> simp only [meet, h] <;> exact ⟨e, rfl⟩

theorem meetWith_error (value : Bytes) (switch : Switch) :
    ∃ e', r.meetWith value switch = fail e' := by
  cases switch <;> simp only [meetWith, h] <;> exact ⟨_, rfl⟩

theorem readLong_error (argument : Bytes) : ∃ e', r.readLong argument = fail e' := by
  unfold readLong
  dsimp only
  split
  next => exact ⟨_, rfl⟩
  next switch _ =>
    split
    next => exact meet_error h switch
    next value _ => exact meetWith_error h value switch

theorem readShort_error (letter : UInt8) (rest : Bytes) :
    ∃ e', r.readShort (letter :: rest) = fail e' := by
  rw [readShort]
  split
  next => exact ⟨_, rfl⟩
  next =>
    split
    next => exact meet_error h _
    next => exact meetWith_error h _ _
  next switch _ _ =>
    -- The letters behind the first one are not come to.
    obtain ⟨e', he⟩ := meet_error h switch
    rw [he]
    exact ⟨e', rfl⟩

theorem readPath_error (argument : Bytes) : ∃ e', r.readPath argument = fail e' := by
  unfold readPath
  rw [h]
  split <;> exact ⟨_, rfl⟩

/-- What waits has to be looked at before the next argument is read, unless that is the two dashes or
the value that a setting waits for. -/
theorem read_of_settle_error (argument : Bytes) :
    (∃ e', r.read argument = fail e') ∨ r.read argument = .ok { r with onlyPaths := true } ∨
      ∃ setting, r.wantsValue = some setting ∧
        r.read argument = .ok { r with pending := some (.setting setting (some argument)) } := by
  have hplain : (∃ e', r.readPlain argument = fail e') ∨ ∃ setting, r.wantsValue = some setting ∧
      r.readPlain argument = .ok { r with pending := some (.setting setting (some argument)) } := by
    unfold readPlain
    split
    next setting hwants => exact .inr ⟨setting, hwants, rfl⟩
    next => exact .inl (readPath_error h argument)
  unfold read
  split
  next => exact .inl (readPath_error h argument)
  next =>
    split
    next first second rest =>
      split
      next =>
        split
        next => exact .inr (.inl rfl)
        next => exact .inl (readLong_error h rest)
      next =>
        split
        next => exact .inl (readShort_error h second rest)
        next => exact hplain.imp_right .inr
    next => exact hplain.imp_right .inr

end unsettled

/-- Behind what is found at fault, nothing is understood. -/
theorem foldlM_of_settle_error {e : UsageError} (hwants : r.wantsValue = none) (h : r.settle = fail e)
    (arguments : List Bytes) : ∃ e', arguments.foldlM read r >>= settle = fail e' := by
  induction arguments generalizing r with
  | nil => exact ⟨e, h⟩
  | cons argument arguments ih =>
    rw [List.foldlM_cons]
    rcases read_of_settle_error h argument with ⟨e', he⟩ | hdashes | ⟨setting, hsetting, -⟩
    · exact ⟨e', by rw [he]; rfl⟩
    · rw [hdashes]
      refine ih (r := { r with onlyPaths := true }) hwants ?_
      rw [settle_onlyPaths, h]
      rfl
    · rw [hwants] at hsetting
      cases hsetting

/-- In front of arguments that are understood, what waits can be looked at. -/
theorem exists_settle {arguments : List Bytes} (hwants : r.wantsValue = none)
    (h : arguments.foldlM read r >>= settle = .ok t) : ∃ s, r.settle = .ok s := by
  cases hsettle : r.settle with
  | ok s => exact ⟨s, rfl⟩
  | error stop =>
    obtain ⟨e, rfl⟩ := exists_usage_of_settle hsettle
    obtain ⟨e', he⟩ := foldlM_of_settle_error hwants hsettle arguments
    rw [he] at h
    cases h

end Reading

end SourceGrade.CommandLine
