import SourceGrade.CommandLine.Arguments

/-!
# What is given

Settings get their values one at a time (`Given.Sets`). What is given with one flag more, or is the same
but for one setting, stays so when the environment fills in the settings that are missing
(`fromEnvironment_withFlags`, `SameBut.fromEnvironment`).
-/

namespace SourceGrade.CommandLine

theorem Setting.variableName_ne {setting other : Setting} (hne : other ≠ setting) :
    other.variableName ≠ setting.variableName := by
  cases setting <;> cases other <;> first | exact absurd rfl hne | decide

namespace Given

variable {g g' h h' : Given} {setting other : Setting} {value : Bytes} {env env' : Environment}

/-! ## Values of settings -/

/-- What is given when a setting has got its value. -/
inductive Sets (g : Given) (value : Bytes) : Setting → Given → Prop where
  | lang {text : Text} (hvalue : Given.text value = .ok text) :
    Sets g value .lang { g with lang := some text }
  | locale {text : Text} (hvalue : Given.text value = .ok text) :
    Sets g value .locale { g with locale := some text }
  | jobs {text : Text} {jobs : Nat} (hvalue : Given.text value = .ok text)
      (hcount : parseCount? text = some jobs) :
    Sets g value .jobs { g with jobs := some jobs }
  | reportOutput {path : Path} (hvalue : nonempty value = .ok path) :
    Sets g value .reportOutput { g with reportOutput := some path }

theorem set_eq_ok_iff : g.set setting value = .ok h ↔ Sets g value setting h := by
  constructor
  · intro hset
    cases setting with
    | lang =>
      cases hvalue : text value with
      | error e => simp [set, hvalue, bind, Except.bind] at hset
      | ok text =>
        simp only [set, hvalue, bind, Except.bind, pure, Except.pure, Except.ok.injEq] at hset
        exact hset ▸ .lang hvalue
    | locale =>
      cases hvalue : text value with
      | error e => simp [set, hvalue, bind, Except.bind] at hset
      | ok text =>
        simp only [set, hvalue, bind, Except.bind, pure, Except.pure, Except.ok.injEq] at hset
        exact hset ▸ .locale hvalue
    | jobs =>
      cases hvalue : text value with
      | error e => simp [set, hvalue, bind, Except.bind] at hset
      | ok text =>
        cases hcount : parseCount? text with
        | none => simp [set, hvalue, hcount, bind, Except.bind] at hset
        | some jobs =>
          simp only [set, hvalue, hcount, bind, Except.bind, pure, Except.pure, Except.ok.injEq]
            at hset
          exact hset ▸ .jobs hvalue hcount
    | reportOutput =>
      cases hvalue : nonempty value with
      | error e => simp [set, hvalue, bind, Except.bind] at hset
      | ok path =>
        simp only [set, hvalue, bind, Except.bind, pure, Except.pure, Except.ok.injEq] at hset
        exact hset ▸ .reportOutput hvalue
  · intro hsets
    cases hsets with
    | lang hvalue | locale hvalue | reportOutput hvalue =>
      simp [set, hvalue, bind, Except.bind, pure, Except.pure]
    | jobs hvalue hcount => simp [set, hvalue, hcount, bind, Except.bind, pure, Except.pure]

theorem Sets.path (hsets : Sets g value setting h) : h.path = g.path := by
  cases hsets <;> rfl

theorem Sets.flags (hsets : Sets g value setting h) : h.flags = g.flags := by
  cases hsets <;> rfl

theorem Sets.has (hsets : Sets g value setting h) : h.has setting = true := by
  cases hsets <;> rfl

theorem Sets.has_of_ne (hsets : Sets g value setting h) (hne : other ≠ setting) :
    h.has other = g.has other := by
  cases hsets <;> cases other <;> first | rfl | exact absurd rfl hne

theorem Sets.unique (hsets : Sets g value setting h) (hsets' : Sets g value setting h') : h = h' :=
  Except.ok.inj ((set_eq_ok_iff.2 hsets).symm.trans (set_eq_ok_iff.2 hsets'))

/-- Whether a setting takes a value does not depend on what else is given. -/
theorem Sets.exists_sets (hsets : Sets g value setting h) (g' : Given) :
    ∃ h', Sets g' value setting h' := by
  cases hsets with
  | lang hvalue => exact ⟨_, .lang hvalue⟩
  | locale hvalue => exact ⟨_, .locale hvalue⟩
  | jobs hvalue hcount => exact ⟨_, .jobs hvalue hcount⟩
  | reportOutput hvalue => exact ⟨_, .reportOutput hvalue⟩

theorem Sets.withFlags (hsets : Sets g value setting h) (flags : List Flag) :
    Sets { g with flags } value setting { h with flags } := by
  cases hsets with
  | lang hvalue => exact .lang hvalue
  | locale hvalue => exact .locale hvalue
  | jobs hvalue hcount => exact .jobs hvalue hcount
  | reportOutput hvalue => exact .reportOutput hvalue

/-! ## The same but for one setting -/

/-- What is given without one of the settings. -/
def without (g : Given) : Setting → Given
  | .lang => { g with lang := none }
  | .locale => { g with locale := none }
  | .jobs => { g with jobs := none }
  | .reportOutput => { g with reportOutput := none }

theorem path_without (g : Given) (setting : Setting) : (g.without setting).path = g.path := by
  cases setting <;> rfl

theorem flags_without (g : Given) (setting : Setting) : (g.without setting).flags = g.flags := by
  cases setting <;> rfl

theorem has_without (g : Given) (hne : other ≠ setting) :
    (g.without setting).has other = g.has other := by
  cases setting <;> cases other <;> first | rfl | exact absurd rfl hne

theorem without_eq_self (hnew : g.has setting = false) : g.without setting = g := by
  cases g
  cases setting <;> cases Option.not_isSome_iff_eq_none.1 (Bool.eq_false_iff.1 hnew) <;> rfl

theorem Sets.without (hsets : Sets g value setting h) : h.without setting = g.without setting := by
  cases hsets <;> rfl

theorem Sets.without_of_ne (hsets : Sets g value other h) (hne : other ≠ setting) :
    Sets (g.without setting) value other (h.without setting) := by
  cases hsets with
  | lang hvalue =>
    cases setting with
    | lang => exact absurd rfl hne
    | _ => exact .lang hvalue
  | locale hvalue =>
    cases setting with
    | locale => exact absurd rfl hne
    | _ => exact .locale hvalue
  | jobs hvalue hcount =>
    cases setting with
    | jobs => exact absurd rfl hne
    | _ => exact .jobs hvalue hcount
  | reportOutput hvalue =>
    cases setting with
    | reportOutput => exact absurd rfl hne
    | _ => exact .reportOutput hvalue

/-- The same things are given, except that the setting may have another value or none. -/
def SameBut (setting : Setting) (g g' : Given) : Prop := g'.without setting = g.without setting

theorem SameBut.symm (hsame : SameBut setting g g') : SameBut setting g' g := Eq.symm hsame

theorem SameBut.path (hsame : SameBut setting g g') : g'.path = g.path := by
  rw [← path_without g' setting, hsame, path_without]

theorem SameBut.flags (hsame : SameBut setting g g') : g'.flags = g.flags := by
  rw [← flags_without g' setting, hsame, flags_without]

theorem SameBut.has (hsame : SameBut setting g g') (hne : other ≠ setting) :
    g'.has other = g.has other := by
  rw [← has_without g' hne, hsame, has_without g hne]

theorem SameBut.eq_without (hsame : SameBut setting g g') (hnew : g'.has setting = false) :
    g' = g.without setting :=
  (without_eq_self hnew).symm.trans hsame

theorem SameBut.setPath (hsame : SameBut setting g g') (path : Option Path) :
    SameBut setting { g with path } { g' with path } := by
  have hwithout : ∀ g : Given, ({ g with path } : Given).without setting =
      { g.without setting with path } := by
    intro g
    cases setting <;> rfl
  unfold SameBut at *
  rw [hwithout, hwithout, hsame]

theorem SameBut.setFlags (hsame : SameBut setting g g') (flags : List Flag) :
    SameBut setting { g with flags } { g' with flags } := by
  have hwithout : ∀ g : Given, ({ g with flags } : Given).without setting =
      { g.without setting with flags } := by
    intro g
    cases setting <;> rfl
  unfold SameBut at *
  rw [hwithout, hwithout, hsame]

theorem Sets.sameBut (hsets : Sets g value setting h) : SameBut setting g h := hsets.without

theorem SameBut.of_sets (hsame : SameBut setting g g') (hne : other ≠ setting)
    (hsets : Sets g value other h) (hsets' : Sets g' value other h') : SameBut setting h h' := by
  have hwithout := hsets'.without_of_ne hne
  rw [hsame] at hwithout
  exact hwithout.unique (hsets.without_of_ne hne)

/-! ## The environment -/

/-- Fills one setting from its variable, unless it is there. -/
def fill (env : Environment) (g : Given) (setting : Setting) : Except UsageError Given :=
  match env.lookup setting.variableName with
  | some value => if g.has setting then .ok g else g.set setting value
  | none => .ok g

theorem fromEnvironment_eq (g : Given) (env : Environment) :
    g.fromEnvironment env = Setting.all.foldlM (fill env) g := rfl

theorem fill_eq_ok_iff : fill env g setting = .ok h ↔
    (env.lookup setting.variableName = none ∨ g.has setting = true) ∧ h = g ∨
      ∃ value, env.lookup setting.variableName = some value ∧ g.has setting = false ∧
        Sets g value setting h := by
  unfold fill
  cases env.lookup setting.variableName with
  | none => simp [@eq_comm _ h g]
  | some value =>
    cases g.has setting with
    | true => simp [@eq_comm _ h g]
    | false => simp [set_eq_ok_iff]

/-- Only the variables of settings are looked at. -/
theorem fromEnvironment_congr (henv : ∀ setting : Setting,
    env'.lookup setting.variableName = env.lookup setting.variableName) (g : Given) :
    g.fromEnvironment env' = g.fromEnvironment env := by
  have hfill : fill env' = fill env := by
    funext g setting
    unfold fill
    rw [henv]
  rw [fromEnvironment_eq, fromEnvironment_eq, hfill]

/-- What goes along with the filling of each setting goes along with the filling of all. -/
theorem exists_fromEnvironment {R : Given → Given → Prop}
    (hfill : ∀ {g g' h : Given} {setting : Setting}, R g g' → fill env g setting = .ok h →
      ∃ h', fill env' g' setting = .ok h' ∧ R h h')
    (hgiven : R g g') (hfilled : g.fromEnvironment env = .ok h) :
    ∃ h', g'.fromEnvironment env' = .ok h' ∧ R h h' := by
  rw [fromEnvironment_eq] at hfilled ⊢
  -- The order in which the settings are filled does not matter here.
  generalize Setting.all = settings at hfilled
  induction settings generalizing g g' with
  | nil =>
    cases hfilled
    exact ⟨g', rfl, hgiven⟩
  | cons setting settings ih =>
    rw [List.foldlM_cons] at hfilled ⊢
    cases hfirst : fill env g setting with
    | error e =>
      rw [hfirst] at hfilled
      cases hfilled
    | ok filled =>
      obtain ⟨filled', hfirst', hnext⟩ := hfill hgiven hfirst
      rw [hfirst] at hfilled
      rw [hfirst']
      exact ih hnext hfilled

theorem fill_withFlags (hfill : fill env g setting = .ok h) (flags : List Flag) :
    fill env { g with flags } setting = .ok { h with flags } := by
  apply fill_eq_ok_iff.2
  rcases fill_eq_ok_iff.1 hfill with ⟨hkept, rfl⟩ | ⟨value, hvalue, hnew, hsets⟩
  · exact Or.inl ⟨hkept, rfl⟩
  · exact Or.inr ⟨value, hvalue, hnew, hsets.withFlags flags⟩

theorem fromEnvironment_withFlags (h : g.fromEnvironment env = .ok h') (flags : List Flag) :
    ({ g with flags } : Given).fromEnvironment env = .ok { h' with flags } := by
  obtain ⟨filled, hfilled, rfl⟩ := exists_fromEnvironment
    (R := fun g g' => g' = { g with flags }) (fun hgiven hfill => by
      rw [hgiven]
      exact ⟨_, fill_withFlags hfill flags, rfl⟩) rfl h
  exact hfilled

/-- The environment gives no flags. -/
theorem flags_fromEnvironment (hfilled : g.fromEnvironment env = .ok h) : h.flags = g.flags := by
  have hflags : g.fromEnvironment env = .ok { h with flags := g.flags } :=
    fromEnvironment_withFlags hfilled g.flags
  rw [hfilled] at hflags
  have heq := congrArg Given.flags (Except.ok.inj hflags)
  exact heq

/-- Two environments that differ in the variable of the setting at most keep what is given the same but
for that setting. -/
theorem SameBut.fill (hsame : SameBut setting g g')
    (henv : ∀ other : Setting, other ≠ setting →
      env'.lookup other.variableName = env.lookup other.variableName)
    (hfill : fill env g other = .ok h) (hfill' : Given.fill env' g' other = .ok h') :
    SameBut setting h h' := by
  have hfills := fill_eq_ok_iff.1 hfill
  have hfills' := fill_eq_ok_iff.1 hfill'
  by_cases hother : other = setting
  · -- Its own variable changes nothing but the setting, in either environment.
    subst hother
    have hsameFill : ∀ {env : Environment} {g h : Given}, Given.fill env g other = .ok h →
        SameBut other g h := by
      intro env g h hfill
      rcases fill_eq_ok_iff.1 hfill with ⟨-, rfl⟩ | ⟨value, -, -, hsets⟩
      · exact rfl
      · exact hsets.sameBut
    exact ((hsameFill hfill').trans hsame).trans (hsameFill hfill).symm
  · rw [henv other hother, hsame.has hother] at hfills'
    rcases hfills with ⟨hkept, rfl⟩ | ⟨value, hvalue, hnew, hsets⟩
    · rcases hfills' with ⟨-, rfl⟩ | ⟨value', hvalue', hnew', -⟩
      · exact hsame
      · rw [hvalue', hnew'] at hkept
        simp at hkept
    · rcases hfills' with ⟨hkept', -⟩ | ⟨value', hvalue', -, hsets'⟩
      · rw [hvalue, hnew] at hkept'
        simp at hkept'
      · cases hvalue.symm.trans hvalue'
        exact hsame.of_sets hother hsets hsets'

theorem SameBut.fromEnvironment (hsame : SameBut setting g g')
    (henv : ∀ other : Setting, other ≠ setting →
      env'.lookup other.variableName = env.lookup other.variableName)
    (hfilled : g.fromEnvironment env = .ok h) (hfilled' : g'.fromEnvironment env' = .ok h') :
    SameBut setting h h' := by
  rw [fromEnvironment_eq] at hfilled hfilled'
  generalize Setting.all = settings at hfilled hfilled'
  induction settings generalizing g g' with
  | nil =>
    cases hfilled
    cases hfilled'
    exact hsame
  | cons other settings ih =>
    rw [List.foldlM_cons] at hfilled hfilled'
    cases hfill : Given.fill env g other with
    | error e =>
      rw [hfill] at hfilled
      cases hfilled
    | ok filled =>
      cases hfill' : Given.fill env' g' other with
      | error e =>
        rw [hfill'] at hfilled'
        cases hfilled'
      | ok filled' =>
        rw [hfill] at hfilled
        rw [hfill'] at hfilled'
        exact ih (hsame.fill henv hfill hfill') hfilled hfilled'

/-- Whatever the variable of a setting has filled in is not there without it. -/
theorem fill_without
    (henv : ∀ other : Setting, other ≠ setting →
      env'.lookup other.variableName = env.lookup other.variableName)
    (hunset : env'.lookup setting.variableName = none) (hfill : Given.fill env g other = .ok h) :
    Given.fill env' (g.without setting) other = .ok (h.without setting) := by
  apply fill_eq_ok_iff.2
  by_cases hother : other = setting
  · subst hother
    refine Or.inl ⟨Or.inl hunset, ?_⟩
    rcases fill_eq_ok_iff.1 hfill with ⟨-, rfl⟩ | ⟨value, -, -, hsets⟩
    · rfl
    · exact hsets.without
  · rw [henv other hother, has_without g hother]
    rcases fill_eq_ok_iff.1 hfill with ⟨hkept, rfl⟩ | ⟨value, hvalue, hnew, hsets⟩
    · exact Or.inl ⟨hkept, rfl⟩
    · exact Or.inr ⟨value, hvalue, hnew, hsets.without_of_ne hother⟩

/-- An environment without the variable of a setting fills in the same but for that setting. -/
theorem fromEnvironment_without
    (henv : ∀ other : Setting, other ≠ setting →
      env'.lookup other.variableName = env.lookup other.variableName)
    (hunset : env'.lookup setting.variableName = none) (hfilled : g.fromEnvironment env = .ok h) :
    (g.without setting).fromEnvironment env' = .ok (h.without setting) := by
  obtain ⟨filled, hfilled', rfl⟩ := exists_fromEnvironment
    (R := fun g g' => g' = g.without setting) (fun hgiven hfill => by
      rw [hgiven]
      exact ⟨_, fill_without henv hunset hfill, rfl⟩) rfl hfilled
  exact hfilled'

end Given

end SourceGrade.CommandLine
