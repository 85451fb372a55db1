import SourceGrade.Proofs.CommandLine.Cosmetic
import SourceGrade.Proofs.CommandLine.Naming
import SourceGrade.Proofs.CommandLine.Report

/-!
# Settings from the environment

A variable does what its option does where the option is not given, and nothing where it is. Only the
help text tells them apart: it shows the variables as they are (`invoke_variable_as_option`).
-/

namespace SourceGrade.CommandLine

variable {env env' : Environment} {setting other : Setting} {value : Bytes}
  {arguments front back : List Bytes} {disk : Disk}

/-! ## Filling in -/

namespace Given

variable {source g h : Given} {settings : List Setting}

theorem has_of_fill (hne : setting ≠ other) (hfill : fill env g other = .ok h) :
    h.has setting = g.has setting := by
  rcases fill_eq_ok_iff.1 hfill with ⟨-, rfl⟩ | ⟨value, -, -, hsets⟩
  · rfl
  · exact hsets.has_of_ne hne

/-- The variable of a setting is not looked at where the setting is there, or is not to be filled. -/
theorem foldlM_fill_congr
    (henv : ∀ other : Setting, other ≠ setting →
      env'.lookup other.variableName = env.lookup other.variableName)
    (hkept : setting ∉ settings ∨ g.has setting = true) :
    settings.foldlM (fill env') g = settings.foldlM (fill env) g := by
  induction settings generalizing g with
  | nil => rfl
  | cons other settings ih =>
    have hfill : fill env' g other = fill env g other := by
      unfold fill
      by_cases hother : other = setting
      · subst hother
        rw [hkept.resolve_left (fun hnot => hnot List.mem_cons_self)]
        cases env.lookup other.variableName <;> cases env'.lookup other.variableName <;> rfl
      · rw [henv other hother]
    rw [List.foldlM_cons, List.foldlM_cons, hfill]
    cases hg : fill env g other with
    | error e => rfl
    | ok filled =>
      refine ih (hkept.imp (fun hnot hmem => hnot (List.mem_cons_of_mem other hmem)) fun hhas => ?_)
      rcases fill_eq_ok_iff.1 hg with ⟨-, rfl⟩ | ⟨value, -, hnew, hsets⟩
      · exact hhas
      · by_cases hother : setting = other
        · exact hother ▸ hsets.has
        · rw [hsets.has_of_ne hother, hhas]

theorem foldlM_fill_lend
    (henv : ∀ other : Setting, other ≠ setting →
      env'.lookup other.variableName = env.lookup other.variableName)
    (hnot : setting ∉ settings) (g : Given) :
    settings.foldlM (fill env') (g.lend source setting) =
      (·.lend source setting) <$> settings.foldlM (fill env) g := by
  induction settings generalizing g with
  | nil => rfl
  | cons other settings ih =>
    obtain ⟨hne, hnot⟩ := not_or.1 (mt List.mem_cons.2 hnot)
    have hfill : fill env' (g.lend source setting) other =
        (·.lend source setting) <$> fill env g other := by
      unfold fill
      rw [henv other (Ne.symm hne), has_lend _ _ (Ne.symm hne)]
      cases env.lookup other.variableName with
      | none => rfl
      | some value =>
        dsimp only
        rw [set_lend _ _ (Ne.symm hne)]
        cases g.has other <;> rfl
    rw [List.foldlM_cons, List.foldlM_cons, hfill]
    cases fill env g other with
    | error e => rfl
    | ok filled => exact ih hnot filled

theorem has_of_foldlM_fill (hnot : setting ∉ settings)
    (hfilled : settings.foldlM (fill env) g = .ok h) : h.has setting = g.has setting := by
  induction settings generalizing g with
  | nil =>
    cases hfilled
    rfl
  | cons other settings ih =>
    obtain ⟨hne, hnot⟩ := not_or.1 (mt List.mem_cons.2 hnot)
    rw [List.foldlM_cons] at hfilled
    cases hfill : fill env g other with
    | error e =>
      rw [hfill] at hfilled
      cases hfilled
    | ok filled =>
      rw [hfill] at hfilled
      rw [ih hnot hfilled, has_of_fill hne hfill]

/-- Each setting is filled in once. -/
theorem exists_all_eq (setting : Setting) : ∃ before after,
    Setting.all = before ++ setting :: after ∧ setting ∉ before ∧ setting ∉ after := by
  cases setting with
  | lang => exact ⟨[], [.locale, .jobs, .reportOutput], rfl, by decide, by decide⟩
  | locale => exact ⟨[.lang], [.jobs, .reportOutput], rfl, by decide, by decide⟩
  | jobs => exact ⟨[.lang, .locale], [.reportOutput], rfl, by decide, by decide⟩
  | reportOutput => exact ⟨[.lang, .locale, .jobs], [], rfl, by decide, by decide⟩

/-- A value from the variable of a setting is as good as one that has been given. -/
theorem fromEnvironment_lend (hsets : Sets {} value setting source)
    (hvalue : env.lookup setting.variableName = some value)
    (hunset : env'.lookup setting.variableName = none)
    (henv : ∀ other : Setting, other ≠ setting →
      env'.lookup other.variableName = env.lookup other.variableName)
    (hnew : g.has setting = false) :
    (g.lend source setting).fromEnvironment env' = g.fromEnvironment env := by
  obtain ⟨before, after, hall, hbefore, hafter⟩ := exists_all_eq setting
  rw [fromEnvironment_eq, fromEnvironment_eq, hall, List.foldlM_append, List.foldlM_append,
    foldlM_fill_lend henv hbefore]
  cases hfilled : before.foldlM (fill env) g with
  | error e => rfl
  | ok filled =>
    have hfill : fill env filled setting = .ok (filled.lend source setting) := by
      refine fill_eq_ok_iff.2 (.inr ⟨value, hvalue, ?_, hsets.lend filled⟩)
      rw [has_of_foldlM_fill hbefore hfilled, hnew]
    have hfill' : fill env' (filled.lend source setting) setting = .ok (filled.lend source setting) :=
      fill_eq_ok_iff.2 (.inl ⟨.inl hunset, rfl⟩)
    show (setting :: after).foldlM (fill env') (filled.lend source setting) =
      (setting :: after).foldlM (fill env) filled
    rw [List.foldlM_cons, List.foldlM_cons, hfill, hfill']
    exact foldlM_fill_congr henv (.inl hafter)

end Given

/-! ## Parsing -/

open Reading

/-- The value of a setting behind an equals sign. -/
def Setting.attached (setting : Setting) (value : Bytes) : Bytes :=
  dash :: dash :: (Path.ofText (Switch.setting setting).longName ++ equals :: value)

/-- Whether a setting takes a value. -/
def Setting.Accepts (setting : Setting) (value : Bytes) : Prop :=
  ∃ given, ({} : Given).set setting value = .ok given

/-- The same variables but for that of one setting. -/
def SameButVariable (setting : Setting) (env env' : Environment) : Prop :=
  ∀ name, name ≠ setting.variableName → env'.lookup name = env.lookup name

/-- As far as these arguments can be read, an option may stand behind them. -/
def MayTakeOption (front : List Bytes) : Prop :=
  ∀ r, front.foldlM read {} = .ok r → r.onlyPaths = false ∧ r.wantsValue = none

theorem SameButVariable.lookup (h : SameButVariable setting env env') (hne : other ≠ setting) :
    env'.lookup other.variableName = env.lookup other.variableName :=
  h _ (Setting.variableName_ne hne)

theorem parse_of_error {stop : Stop} (h : arguments.foldlM read {} >>= settle = .error stop)
    (env env' : Environment) : parse env' arguments = parse env arguments := by
  unfold parse
  rw [h]
  cases stop <;> rfl

/-- The variable of a setting that is given does not matter. -/
theorem parse_of_not_omits (henv : SameButVariable setting env env')
    (hgiven : ¬ setting.Omits arguments) : parse env' arguments = parse env arguments := by
  cases ht : arguments.foldlM read {} >>= settle with
  | error stop => exact parse_of_error ht env env'
  | ok t =>
    have hhas := has_of_not_omits hgiven (lacks_start setting) ht
    have hfilled : t.given.fromEnvironment env' = t.given.fromEnvironment env :=
      Given.foldlM_fill_congr (fun other hne => henv.lookup hne) (.inr hhas)
    unfold parse
    rw [ht]
    dsimp only
    rw [hfilled]

theorem parse_of_fail {e : UsageError} (h : arguments.foldlM read {} >>= settle = fail e)
    (env : Environment) : parse env arguments = .error e := by
  unfold parse
  rw [h]
  rfl

/-- The variable of a setting that is lacking gives what has been lent. -/
theorem parse_of_lends {source : Given} {closed : Bool} {arguments' : List Bytes}
    (hsets : Given.Sets {} value setting source)
    (hvalue : env.lookup setting.variableName = some value)
    (hunset : env'.lookup setting.variableName = none) (henv : SameButVariable setting env env')
    (hlends : Lends source setting closed (arguments.foldlM read {} >>= settle)
      (arguments'.foldlM read {} >>= settle)) :
    parse env' arguments' = parse env arguments := by
  obtain ⟨heq, hlacks⟩ := hlends
  unfold parse
  rw [heq]
  cases ht : arguments.foldlM read {} >>= settle with
  | error stop => cases stop <;> rfl
  | ok t =>
    have hfilled := Given.fromEnvironment_lend hsets hvalue hunset (fun other hne => henv.lookup hne)
      (hlacks t ht).new
    show (((t.given.lend source setting).fromEnvironment env').bind fun given => _) = _
    rw [hfilled]
    rfl

/-- The option with a value asks for what its variable asks for with that value, or neither is
understood. -/
theorem parse_attached (haccepts : setting.Accepts value)
    (hvalue : env.lookup setting.variableName = some value)
    (hunset : env'.lookup setting.variableName = none) (henv : SameButVariable setting env env')
    (homits : setting.Omits (front ++ back)) (hfront : MayTakeOption front) :
    parse env' (front ++ setting.attached value :: back) = parse env (front ++ back) ∨
      ∃ e e', parse env (front ++ back) = .error e ∧
        parse env' (front ++ setting.attached value :: back) = .error e' := by
  obtain ⟨source, hsource⟩ := haccepts
  have hsets := Given.set_eq_ok_iff.1 hsource
  obtain ⟨closed, hback, hlends⟩ := lends_foldlM source (.inr homits) (lacks_start setting)
  cases hr : front.foldlM read {} with
  | error stop =>
    -- What comes to an end in front of the option does so without it.
    left
    unfold parse
    rw [List.foldlM_append, List.foldlM_append, hr]
    cases stop <;> rfl
  | ok r =>
    obtain ⟨hopen, hwants⟩ := hfront r hr
    have hlacks := hlends.2 r hr
    cases hsettle : r.settle with
    | error stop =>
      -- A fault that is still pending comes out with and without the option, but maybe not the same.
      right
      obtain ⟨e, rfl⟩ := exists_usage_of_settle hsettle
      obtain ⟨e₁, he₁⟩ := foldlM_of_settle_error hwants hsettle back
      obtain ⟨e₂, he₂⟩ := foldlM_of_settle_error hwants hsettle (setting.attached value :: back)
      refine ⟨e₁, e₂, parse_of_fail ?_ env, parse_of_fail ?_ env'⟩
      · rw [List.foldlM_append, hr]
        exact he₁
      · rw [List.foldlM_append, hr]
        exact he₂
    | ok s =>
      left
      have hlent := (lends_settle source hlacks).2 s hsettle
      have hassign : s.assign setting value = .ok (s.lend source setting) :=
        assign_eq_ok_iff.2 ⟨hlent.new, _, Given.set_eq_ok_iff.2 (hsets.lend s.given), rfl⟩
      have hread : r.read (setting.attached value) = .ok (s.lend source setting) := by
        rw [Setting.attached, read_attached hopen, meetWith, hsettle]
        exact hassign
      rw [← back.append_nil] at hback
      obtain ⟨closed', -, hrest⟩ := lends_foldlM source hback hlent
      have hbehind : Lends source setting closed' (back.foldlM read r >>= settle)
          ((setting.attached value :: back).foldlM read r >>= settle) := by
        rw [List.foldlM_cons, hread, foldlM_settle hsettle]
        exact hrest.bind fun t ht => lends_settle source ht
      have hall : Lends source setting closed' ((front ++ back).foldlM read {} >>= settle)
          ((front ++ setting.attached value :: back).foldlM read {} >>= settle) := by
        rw [List.foldlM_append, List.foldlM_append, hr]
        exact hbehind
      exact parse_of_lends hsets hvalue hunset henv hall

/-! ## Runs -/

/-- Two runs do the same, but a request for help shows the variables of each. -/
structure RunsAlike (disk : Disk) (env : Environment) (arguments : List Bytes) (env' : Environment)
    (arguments' : List Bytes) : Prop where
  exitCode : (invoke env' arguments' disk).exitCode = (invoke env arguments disk).exitCode
  stdout : (invoke env' arguments' disk).stdout = (invoke env arguments disk).stdout ∨
    parse env arguments = .ok .help ∧ parse env' arguments' = .ok .help ∧
      (invoke env arguments disk).stdout = helpText env ∧
      (invoke env' arguments' disk).stdout = helpText env'
  written : (invoke env' arguments' disk).disk = (invoke env arguments disk).disk
  skipped : (invoke env' arguments' disk).diagnostics.filterMap Diagnostic.skipped? =
    (invoke env arguments disk).diagnostics.filterMap Diagnostic.skipped?

theorem invoke_of_help (h : parse env arguments = .ok .help) (disk : Disk) :
    invoke env arguments disk = { stdout := helpText env, disk } := by
  unfold invoke run
  rw [h]
  rfl

theorem invoke_of_version (h : parse env arguments = .ok .version) (disk : Disk) :
    invoke env arguments disk = { stdout := versionText, disk } := by
  unfold invoke run
  rw [h]
  rfl

theorem runsAlike_of_errors {e e' : UsageError} {arguments' : List Bytes}
    (h : parse env arguments = .error e) (h' : parse env' arguments' = .error e') (disk : Disk) :
    RunsAlike disk env arguments env' arguments' := by
  constructor <;> rw [invoke_of_parse_error h, invoke_of_parse_error h']
  · rfl
  · exact .inl rfl
  · rfl
  · rfl

theorem runsAlike_of_parse {arguments' : List Bytes} (henv : SameButVariable setting env env')
    (h : parse env' arguments' = parse env arguments) (disk : Disk) :
    RunsAlike disk env arguments env' arguments' := by
  cases hparse : parse env arguments with
  | error e => exact runsAlike_of_errors hparse (h.trans hparse) disk
  | ok request =>
    have hparse' := h.trans hparse
    cases request with
    | help =>
      have hhelp := invoke_of_help hparse disk
      have hhelp' := invoke_of_help hparse' disk
      have hstdout : (invoke env arguments disk).stdout = helpText env := by rw [hhelp]
      have hstdout' : (invoke env' arguments' disk).stdout = helpText env' := by rw [hhelp']
      refine ⟨?_, .inr ⟨hparse, hparse', hstdout, hstdout'⟩, ?_, ?_⟩ <;> rw [hhelp, hhelp']
    | version =>
      constructor <;> rw [invoke_of_version hparse, invoke_of_version hparse']
      exact .inl rfl
    | scan o =>
      -- The log filter has a variable of its own.
      have hlog : logSpecification env' = logSpecification env := by
        unfold logSpecification
        rw [henv logVariable (by cases setting <;> decide)]
      have hinvoke : invoke env' arguments' disk = invoke env arguments disk := by
        rw [invoke_of_parse hparse, invoke_of_parse hparse', hlog]
      exact ⟨by rw [hinvoke], .inl (by rw [hinvoke]), by rw [hinvoke], by rw [hinvoke]⟩

/-- A run with a value in the variable of a setting, and without its option, does the same as one with
that value behind the option, and without the variable. With the option the variable does not matter. -/
theorem invoke_variable_as_option (setting : Setting) (disk : Disk) :
    (∀ env env' value front back, setting.Accepts value →
      env.lookup setting.variableName = some value → env'.lookup setting.variableName = none →
      SameButVariable setting env env' → setting.Omits (front ++ back) → MayTakeOption front →
      RunsAlike disk env (front ++ back) env' (front ++ setting.attached value :: back)) ∧
    (∀ env env' arguments, SameButVariable setting env env' → ¬ setting.Omits arguments →
      RunsAlike disk env arguments env' arguments) := by
  constructor
  · intro env env' value front back haccepts hvalue hunset henv homits hfront
    rcases parse_attached haccepts hvalue hunset henv homits hfront with h | ⟨e, e', h, h'⟩
    · exact runsAlike_of_parse henv h disk
    · exact runsAlike_of_errors h h' disk
  · intro env env' arguments henv hgiven
    exact runsAlike_of_parse henv (parse_of_not_omits henv hgiven) disk

/-- The values `go` for the language, in its variable or behind its option, and `two` for the number of
workers, which takes no such value. -/
theorem invoke_variable_as_option_scanned :
    RunsAlike scannedDisk [(Setting.variableName .lang, Path.ofText "go".toList)]
      [Path.ofText "--json".toList, [0x64]] []
      [Path.ofText "--json".toList, Path.ofText "--lang=go".toList, [0x64]] ∧
    RunsAlike scannedDisk [] [Path.ofText "-vj2".toList, [0x64]]
      [(Setting.variableName .jobs, Path.ofText "two".toList)] [Path.ofText "-vj2".toList, [0x64]] := by
  have hvariable : ∀ (setting : Setting) (value : Bytes),
      SameButVariable setting [(setting.variableName, value)] [] ∧
      SameButVariable setting [] [(setting.variableName, value)] := by
    intro setting value
    constructor <;> intro name hname <;> rw [List.lookup_cons, beq_false_of_ne hname]
  constructor
  · refine (invoke_variable_as_option .lang scannedDisk).1 _ _ (Path.ofText "go".toList)
      [Path.ofText "--json".toList] [[0x64]] ⟨_, rfl⟩ rfl rfl (hvariable _ _).1 ?_ ?_
    · exact .inr ⟨by decide, .inr ⟨by decide, trivial⟩⟩
    · intro r hr
      cases hr
      exact ⟨rfl, rfl⟩
  · refine (invoke_variable_as_option .jobs scannedDisk).2 _ _ _ (hvariable _ _).2 ?_
    rintro (hdashes | ⟨hname, -⟩)
    · exact absurd hdashes (by decide)
    · exact absurd (by decide) hname

/-- A request for help tells a variable from its option. -/
theorem help_shows_variable :
    Setting.lang.Accepts (Path.ofText "go".toList) ∧
    Setting.lang.Omits [Path.ofText "--help".toList] ∧
    (invoke [] [Setting.lang.attached (Path.ofText "go".toList), Path.ofText "--help".toList]
        scannedDisk).stdout ≠
      (invoke [(Setting.variableName .lang, Path.ofText "go".toList)] [Path.ofText "--help".toList]
        scannedDisk).stdout := by
  refine ⟨⟨_, rfl⟩, .inr ⟨by decide, trivial⟩, ?_⟩
  decide +kernel

end SourceGrade.CommandLine
