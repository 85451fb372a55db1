import SourceGrade.Proofs.CommandLine.Lending
import SourceGrade.Proofs.CommandLine.Variation

/-!
# Settings that are dropped

A command line that is understood stays so when a setting is dropped, and asks for the same with the
default of that setting (`parse_dropsSetting`). A setting that has no letter can always be dropped
(`exists_dropsSetting`).
-/

namespace SourceGrade.CommandLine

variable {env env' : Environment} {arguments arguments' front back spelled : List Bytes} {o : Options}
  {g : Given} {setting : Setting} {value : Bytes}

/-- The second command line does not give the setting: it is the first one without the option, or the
first one does not name the setting either. -/
inductive DropsSetting (setting : Setting) : List Bytes → List Bytes → Prop where
  | option {front spelled back : List Bytes} {value : Bytes} (hfront : TakesOption front)
      (hspelled : setting.Spelling value spelled) :
    DropsSetting setting (front ++ (spelled ++ back)) (front ++ back)
  | omitted {arguments : List Bytes} (homits : setting.Omits arguments) :
    DropsSetting setting arguments arguments

/-- The options with the default of a setting. -/
def Options.withDefault (o : Options) : Setting → Options
  | .lang => { o with lang := defaultLang }
  | .locale => { o with locale := defaultLocale }
  | .jobs => { o with jobs := defaultJobs }
  | .reportOutput => { o with reportOutput := none }

theorem options_without (setting : Setting) (h : g.options = .ok o) :
    (g.without setting).options = .ok (o.withDefault setting) := by
  unfold Given.options at h ⊢
  rw [Given.path_without]
  cases hpath : g.path with
  | none =>
    rw [hpath] at h
    cases h
  | some path =>
    rw [hpath] at h
    cases h
    cases setting <;> rfl

namespace Reading

variable {t : Reading}

theorem has_of_omits (homits : setting.Omits arguments)
    (h : arguments.foldlM read {} >>= settle = .ok t) : t.given.has setting = false := by
  rw [← arguments.append_nil] at homits
  obtain ⟨closed, -, hlends⟩ := lends_foldlM {} (.inr homits) (lacks_start setting)
  exact ((hlends.bind fun _ ht => lends_settle {} ht).2 t h).new

/-- Without the option the arguments are understood as well. -/
theorem exists_without (hfront : TakesOption front) (hspelled : setting.Spelling value spelled)
    (h : (front ++ (spelled ++ back)).foldlM read {} >>= settle = .ok t) :
    ∃ t', (front ++ back).foldlM read {} >>= settle = .ok t' ∧
      t'.given = t.given.without setting := by
  obtain ⟨r, s, hr, hopen, hs, hrest⟩ := exists_front hfront h
  obtain ⟨u, hu, hback⟩ :=
    foldlM_spelling hspelled (settle_settled hs) ((onlyPaths_of_settle hs).trans hopen) hrest
  obtain ⟨t', ht', hsame, hpresent⟩ := exists_sameBut_of_assign hu (Or.inl rfl) hback
  -- What has been given in front of the option is not the setting, or the option would be repeated.
  have hnew : s.given.has setting = false := (assign_eq_ok_iff.1 hu).1
  refine ⟨t', ?_, hsame.eq_without (hpresent.trans hnew)⟩
  rw [List.foldlM_append, hr, ← ht']
  exact foldlM_settle hs back

theorem exists_dropped (hdrops : DropsSetting setting arguments arguments')
    (h : arguments.foldlM read {} >>= settle = .ok t) :
    ∃ t', arguments'.foldlM read {} >>= settle = .ok t' ∧
      t'.given = t.given.without setting := by
  cases hdrops with
  | option hfront hspelled => exact exists_without hfront hspelled h
  | omitted homits => exact ⟨t, h, (Given.without_eq_self (has_of_omits homits h)).symm⟩

end Reading

/-- With a setting dropped from the arguments and the environment, the same is asked for with its
default. -/
theorem parse_dropsSetting (hdrops : DropsSetting setting arguments arguments')
    (henv : ∀ other : Setting, other ≠ setting →
      env'.lookup other.variableName = env.lookup other.variableName)
    (hunset : env'.lookup setting.variableName = none)
    (h : parse env arguments = .ok (.scan o)) :
    parse env' arguments' = .ok (.scan (o.withDefault setting)) := by
  obtain ⟨t, given, ht, hgiven, hoptions⟩ := parse_eq_scan_iff.1 h
  obtain ⟨t', ht', hwithout⟩ := Reading.exists_dropped hdrops ht
  refine parse_eq_scan_iff.2 ⟨t', given.without setting, ht', ?_, options_without setting hoptions⟩
  rw [hwithout]
  exact Given.fromEnvironment_without henv hunset hgiven

/-! ## Arguments that can be dropped -/

theorem eq_longName_of_ofLong? {name : Bytes} {switch : Switch}
    (h : Switch.ofLong? name = some switch) : name = Path.ofText switch.longName := by
  have hname := List.find?_some h
  exact (of_decide_eq_true hname).symm

/-- A setting without a letter is not among letters. -/
theorem shortSetting?_ne (hletter : (Switch.setting setting).shortName? = none) (rest : Bytes) :
    shortSetting? rest ≠ some setting := by
  intro h
  induction rest with
  | nil => cases h
  | cons letter rest ih =>
    rw [shortSetting?] at h
    split at h
    next other hother =>
      cases h
      have hshort := List.find?_some hother
      rw [hletter] at hshort
      cases hshort
    next => exact ih h
    next => cases h

theorem exists_longName_of_longSetting? {argument : Bytes}
    (h : longSetting? argument = some setting) :
    argument = Path.ofText (Switch.setting setting).longName ∨
      ∃ value, argument = Path.ofText (Switch.setting setting).longName ++ Reading.equals :: value := by
  unfold longSetting? at h
  split at h
  next other hswitch =>
    cases h
    have hname := eq_longName_of_ofLong? hswitch
    have hsplit := List.takeWhile_append_dropWhile (p := (· ≠ Reading.equals)) (l := argument)
    rw [hname] at hsplit
    cases hrest : argument.dropWhile (· ≠ Reading.equals) with
    | nil =>
      rw [hrest, List.append_nil] at hsplit
      exact Or.inl hsplit.symm
    | cons b value =>
      have hhead := List.head?_dropWhile_not (· ≠ Reading.equals) argument
      rw [hrest] at hsplit hhead
      have hb : b = Reading.equals := by simpa using hhead
      exact Or.inr ⟨value, by rw [← hb, hsplit]⟩
  next => cases h

/-- A setting without a letter is named in full, with or without a value attached. -/
theorem exists_longName_of_named {argument : Bytes}
    (hletter : (Switch.setting setting).shortName? = none)
    (h : namedSetting? argument = some setting) :
    argument = Reading.dash :: Reading.dash :: Path.ofText (Switch.setting setting).longName ∨
      ∃ value, argument = Reading.dash :: Reading.dash ::
        (Path.ofText (Switch.setting setting).longName ++ Reading.equals :: value) := by
  unfold namedSetting? at h
  split at h
  next first second rest =>
    split at h
    next hlong =>
      rw [hlong.1, hlong.2]
      rcases exists_longName_of_longSetting? h with heq | ⟨value, heq⟩
      · exact Or.inl (by rw [heq])
      · exact Or.inr ⟨value, by rw [heq]⟩
    next =>
      split at h
      next => exact absurd h (shortSetting?_ne hletter _)
      next => cases h
  next => cases h

namespace Reading

variable {r t : Reading}

/-- What is at fault when the two dashes are met is found behind them. -/
theorem foldlM_of_onlyPaths {e : UsageError} (hclosed : r.onlyPaths = true) (h : r.settle = fail e)
    (arguments : List Bytes) : ∃ e', arguments.foldlM read r >>= settle = fail e' := by
  cases arguments with
  | nil => exact ⟨e, h⟩
  | cons argument arguments =>
    obtain ⟨e', he⟩ := readPath_error h argument
    refine ⟨e', ?_⟩
    have hread : r.read argument = fail e' := by
      unfold read
      rw [if_pos hclosed, he]
    rw [List.foldlM_cons, hread]
    rfl

/-- What is at fault is found at the next argument that looks like an option, or behind it. -/
theorem foldlM_of_dashed {e : UsageError} (hopen : r.onlyPaths = false) (h : r.settle = fail e)
    (second : UInt8) (rest : Bytes) (back : List Bytes) :
    ∃ e', ((dash :: second :: rest) :: back).foldlM read r >>= settle = fail e' := by
  rw [List.foldlM_cons]
  unfold read
  rw [hopen, if_neg Bool.false_ne_true]
  dsimp only
  split
  next =>
    split
    next =>
      have hclosed : settle { r with onlyPaths := true } = fail e := by
        rw [settle_onlyPaths, h]
        rfl
      exact foldlM_of_onlyPaths rfl hclosed back
    next =>
      obtain ⟨e', he⟩ := readLong_error h rest
      rw [he]
      exact ⟨e', rfl⟩
  next =>
    obtain ⟨e', he⟩ := readShort_error h second rest
    rw [if_pos rfl, he]
    exact ⟨e', rfl⟩

/-- Behind the name of a setting there is a value for it, which does not look like an option. -/
theorem exists_value_of_waiting (hwaits : r.wantsValue = some setting) (hopen : r.onlyPaths = false)
    (h : arguments.foldlM read r >>= settle = .ok t) :
    ∃ value back, arguments = value :: back ∧ IsPlain value := by
  have hsettle : r.settle = fail .emptyValue := by
    unfold wantsValue at hwaits
    unfold settle
    split at hwaits
    next hpending => rw [hpending]
    next => cases hwaits
  cases arguments with
  | nil => cases hsettle.symm.trans h
  | cons value back =>
    refine ⟨value, back, rfl, ?_⟩
    match value with
    | [] => exact Or.inl Nat.zero_lt_two
    | [_] => exact Or.inl Nat.one_lt_two
    | first :: second :: rest =>
      refine Or.inr fun hhead => ?_
      obtain rfl : first = dash := Option.some.inj hhead
      obtain ⟨e, he⟩ := foldlM_of_dashed hopen hsettle second rest back
      cases he.symm.trans h

theorem exists_spelling_of_named {argument : Bytes} {rest : List Bytes}
    (hletter : (Switch.setting setting).shortName? = none)
    (hname : namedSetting? argument = some setting) (hopen : r.onlyPaths = false)
    (h : (argument :: rest).foldlM read r >>= settle = .ok t) :
    r.wantsValue = none ∧
      ∃ value spelled back, setting.Spelling value spelled ∧ argument :: rest = spelled ++ back := by
  rw [List.foldlM_cons] at h
  cases hsettle : r.settle with
  | error stop =>
    obtain ⟨e, rfl⟩ := exists_usage_of_settle hsettle
    obtain ⟨e', he⟩ : ∃ e', r.read argument = fail e' := by
      rcases exists_longName_of_named hletter hname with rfl | ⟨value, rfl⟩
      · rw [read_longName hopen]
        exact meet_error hsettle _
      · rw [read_attached hopen]
        exact meetWith_error hsettle value _
    rw [he] at h
    cases h
  | ok s =>
    refine ⟨(wantsValue_of_settle hsettle).1, ?_⟩
    rcases exists_longName_of_named hletter hname with rfl | ⟨value, rfl⟩
    · rw [read_longName hopen, meet, hsettle] at h
      replace h : (rest.foldlM read { s with pending := some (.setting setting none) } >>= settle) =
        .ok t := h
      obtain ⟨value, back, rfl, hplain⟩ := exists_value_of_waiting
        (r := { s with pending := some (.setting setting none) }) rfl
        ((onlyPaths_of_settle hsettle).trans hopen) h
      exact ⟨value, _, back, .separate hplain, rfl⟩
    · exact ⟨value, _, rest, .attached, rfl⟩

/-- The place where a setting is first named, if it is, is one where an option may stand. -/
theorem exists_spelling (hletter : (Switch.setting setting).shortName? = none)
    (hnames : ¬ setting.Omits arguments) (h : r.Lacks setting false)
    (ht : arguments.foldlM read r >>= settle = .ok t) :
    ∃ front value spelled back, arguments = front ++ (spelled ++ back) ∧
      setting.Spelling value spelled ∧
      ∃ s, front.foldlM read r = .ok s ∧ s.onlyPaths = false ∧ s.wantsValue = none := by
  induction arguments generalizing r with
  | nil => exact absurd trivial hnames
  | cons argument arguments ih =>
    obtain ⟨hdashes, hrest⟩ := not_or.1 hnames
    by_cases hname : namedSetting? argument = some setting
    · obtain ⟨hwants, value, spelled, back, hspelled, heq⟩ :=
        exists_spelling_of_named hletter hname h.onlyPaths ht
      exact ⟨[], value, spelled, back, heq, hspelled, r, rfl, h.onlyPaths, hwants⟩
    · rw [List.foldlM_cons] at ht
      cases hread : r.read argument with
      | error stop =>
        rw [hread] at ht
        cases ht
      | ok u =>
        rw [hread] at ht
        have hlacks := (lends_read {} h (.inr hname)).2 u hread
        rw [Bool.false_or, decide_eq_false hdashes] at hlacks
        obtain ⟨front, value, spelled, back, rfl, hspelled, s, hs, hplace⟩ :=
          ih (fun homits => hrest ⟨hname, homits⟩) hlacks ht
        refine ⟨argument :: front, value, spelled, back, rfl, hspelled, s, ?_, hplace⟩
        rw [List.foldlM_cons, hread]
        exact hs

end Reading

/-- A setting without a letter can be dropped from any command line that is understood. -/
theorem exists_dropsSetting (hletter : (Switch.setting setting).shortName? = none)
    (h : parse env arguments = .ok (.scan o)) :
    ∃ arguments', DropsSetting setting arguments arguments' := by
  obtain ⟨t, given, ht, -, -⟩ := parse_eq_scan_iff.1 h
  by_cases homits : setting.Omits arguments
  · exact ⟨arguments, .omitted homits⟩
  · obtain ⟨front, value, spelled, back, rfl, hspelled, hfront⟩ :=
      Reading.exists_spelling hletter homits (Reading.lacks_start setting) ht
    exact ⟨front ++ back, .option hfront hspelled⟩

end SourceGrade.CommandLine
