import SourceGrade.Proofs.CommandLine.Lending
import SourceGrade.Proofs.CommandLine.Lockstep

/-!
# Settings that arguments name

Behind arguments that name a setting and are understood, it has got a value
(`Reading.has_of_not_omits`).
-/

namespace SourceGrade.CommandLine.Reading

variable {r s t : Reading} {setting : Setting} {value : Bytes}

/-- The setting has got a value or waits for one. -/
def Asks (setting : Setting) (r : Reading) : Prop :=
  r.given.has setting = true ∨ ∃ value, r.pending = some (.setting setting value)

theorem lockstep_has (setting : Setting) :
    Lockstep (fun _ => True) (fun g g' => g' = g ∧ g.has setting = true) := by
  apply lockstep_lasting
  · intro g path h
    rw [← h]
    cases setting <;> rfl
  · intro g g' other value h hsets
    by_cases hother : setting = other
    · exact hother ▸ hsets.has
    · rw [hsets.has_of_ne hother, h]
  · intro g flag h
    rw [← h]
    cases setting <;> rfl

theorem Asks.has_of_settle (h : r.Asks setting) (hsettle : r.settle = .ok s) :
    s.given.has setting = true := by
  have hsettles := (settle_eq_ok_iff.1 hsettle).1
  generalize s.given = given at hsettles
  cases hsettles with
  | nothing hpending =>
    refine h.resolve_right ?_
    rintro ⟨value, hvalue⟩
    rw [hpending] at hvalue
    cases hvalue
  | @setting other value given hpending _ hset =>
    by_cases hother : setting = other
    · exact hother ▸ (Given.set_eq_ok_iff.1 hset).has
    · rw [(Given.set_eq_ok_iff.1 hset).has_of_ne hother]
      refine h.resolve_right ?_
      rintro ⟨value', hvalue'⟩
      rw [hpending] at hvalue'
      cases hvalue'
      exact hother rfl
  | path hpending _ =>
    have hhas : r.given.has setting = true := by
      refine h.resolve_right ?_
      rintro ⟨value, hvalue⟩
      rw [hpending] at hvalue
      cases hvalue
    rw [← hhas]
    cases setting <;> rfl

theorem Asks.of_read {argument : Bytes} (h : r.Asks setting) (ht : r.read argument = .ok t) :
    t.Asks setting := by
  cases hsettle : r.settle with
  | ok s =>
    have hhas := h.has_of_settle hsettle
    rcases read_of_settle hsettle argument with heq | ⟨heq, -⟩
    · exact .inl (((lockstep_has setting).follows_read ⟨rfl, rfl, rfl, hhas⟩ argument).lasts
        (heq.symm.trans ht))
    · cases heq.symm.trans ht
      exact h
  | error stop =>
    obtain ⟨e, rfl⟩ := exists_usage_of_settle hsettle
    rcases read_of_settle_error hsettle argument with ⟨e', he⟩ | hdashes | ⟨other, hwants, hvalue⟩
    · cases he.symm.trans ht
    · cases hdashes.symm.trans ht
      exact h
    · cases hvalue.symm.trans ht
      refine h.imp_right ?_
      -- Whatever waits for its value is the setting that has been named.
      rintro ⟨value, hpending⟩
      unfold wantsValue at hwants
      rw [hpending] at hwants
      cases value with
      | none =>
        cases hwants
        exact ⟨_, rfl⟩
      | some value => cases hwants

theorem asks_of_meet (ht : r.meet (.setting setting) = .ok t) : t.Asks setting := by
  unfold meet at ht
  cases hsettle : r.settle with
  | error stop =>
    rw [hsettle] at ht
    cases ht
  | ok s =>
    rw [hsettle] at ht
    cases ht
    exact .inr ⟨none, rfl⟩

theorem asks_of_meetWith (ht : r.meetWith value (.setting setting) = .ok t) : t.Asks setting := by
  unfold meetWith at ht
  cases hsettle : r.settle with
  | error stop =>
    rw [hsettle] at ht
    cases ht
  | ok s =>
    rw [hsettle] at ht
    obtain ⟨-, given, hset, rfl⟩ := assign_eq_ok_iff.1 ht
    exact .inl (Given.set_eq_ok_iff.1 hset).has

theorem asks_of_readLong {argument : Bytes} (hname : longSetting? argument = some setting)
    (ht : r.readLong argument = .ok t) : t.Asks setting := by
  unfold longSetting? at hname
  split at hname
  next other hswitch =>
    cases hname
    unfold readLong at ht
    dsimp only at ht
    rw [hswitch] at ht
    dsimp only at ht
    split at ht
    next => exact asks_of_meet ht
    next => exact asks_of_meetWith ht
  next => cases hname

theorem asks_of_readShort {rest : Bytes} (hname : shortSetting? rest = some setting)
    (ht : r.readShort rest = .ok t) : t.Asks setting := by
  induction rest generalizing r with
  | nil => cases hname
  | cons letter rest ih =>
    rw [shortSetting?] at hname
    rw [readShort] at ht
    split at hname
    next other hswitch =>
      cases hname
      rw [hswitch] at ht
      dsimp only at ht
      split at ht
      next => exact asks_of_meet ht
      next => exact asks_of_meetWith ht
    next switch hother hswitch =>
      split at ht
      next => cases ht
      next other hsetting =>
        cases hswitch.symm.trans hsetting
        exact absurd rfl (hother other)
      next met _ _ =>
        cases hmeet : r.meet met with
        | error stop =>
          rw [hmeet] at ht
          cases ht
        | ok u =>
          rw [hmeet] at ht
          exact ih hname ht
    next => cases hname

theorem asks_of_named {argument : Bytes} (hname : namedSetting? argument = some setting)
    (hopen : r.onlyPaths = false) (ht : r.read argument = .ok t) : t.Asks setting := by
  unfold namedSetting? at hname
  unfold read at ht
  rw [hopen, if_neg Bool.false_ne_true] at ht
  split at hname
  next first second rest =>
    dsimp only at ht
    split at hname
    next hlong =>
      rw [if_pos hlong] at ht
      split at ht
      next hrest =>
        rw [hrest] at hname
        cases hname
      next => exact asks_of_readLong hname ht
    next hlong =>
      rw [if_neg hlong] at ht
      split at hname
      next hshort =>
        rw [if_pos hshort] at ht
        exact asks_of_readShort hname ht
      next => cases hname
  next => cases hname

theorem Asks.has_of_foldlM {arguments : List Bytes} (h : r.Asks setting)
    (ht : arguments.foldlM read r >>= settle = .ok t) : t.given.has setting = true := by
  induction arguments generalizing r with
  | nil => exact h.has_of_settle ht
  | cons argument arguments ih =>
    rw [List.foldlM_cons] at ht
    cases hread : r.read argument with
    | error stop =>
      rw [hread] at ht
      cases ht
    | ok u =>
      rw [hread] at ht
      exact ih (h.of_read hread) ht

/-- Behind arguments that name a setting it has got a value. -/
theorem has_of_not_omits {arguments : List Bytes} (hnames : ¬ setting.Omits arguments)
    (h : r.Lacks setting false) (ht : arguments.foldlM read r >>= settle = .ok t) :
    t.given.has setting = true := by
  -- The setting is lacking up to the first argument that names it, and asked for from there on.
  induction arguments generalizing r with
  | nil => exact absurd trivial hnames
  | cons argument arguments ih =>
    obtain ⟨hdashes, hrest⟩ := not_or.1 hnames
    rw [List.foldlM_cons] at ht
    cases hread : r.read argument with
    | error stop =>
      rw [hread] at ht
      cases ht
    | ok u =>
      rw [hread] at ht
      by_cases hname : namedSetting? argument = some setting
      · exact (asks_of_named hname h.onlyPaths hread).has_of_foldlM ht
      · have hlacks := (lends_read {} h (.inr hname)).2 u hread
        rw [Bool.false_or, decide_eq_false hdashes] at hlacks
        exact ih (fun homits => hrest ⟨hname, homits⟩) hlacks ht

end SourceGrade.CommandLine.Reading
