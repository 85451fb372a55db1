import SourceGrade.Proofs.CommandLine.Lockstep

/-!
# Variations of command lines

Wherever an option may stand, a command line with one more flag is still understood, and asks for the same
with that flag (`parse_addsFlag`). Command lines that differ in one setting ask for the same but for that
setting (`parse_changesSetting`).
-/

namespace SourceGrade.CommandLine

/-! ## Spellings -/

/-- The ways to write a flag: its long name, and its letter if it has one. -/
def Flag.spellings (flag : Flag) : List Bytes :=
  (Reading.dash :: Reading.dash :: Path.ofText (Switch.flag flag).longName) ::
    ((Switch.flag flag).shortName?.map fun c => Reading.dash :: Path.ofText [c]).toList

/-- An argument that is no option. -/
def IsPlain (argument : Bytes) : Prop :=
  argument.length < 2 ∨ argument.head? ≠ some Reading.dash

/-- The ways to give a setting a value by its long name: behind an equals sign, or as an argument of its
own, which must not look like an option. -/
inductive Setting.Spelling (setting : Setting) (value : Bytes) : List Bytes → Prop where
  | attached : Spelling setting value
    [Reading.dash :: Reading.dash ::
      (Path.ofText (Switch.setting setting).longName ++ Reading.equals :: value)]
  | separate (hplain : IsPlain value) : Spelling setting value
    [Reading.dash :: Reading.dash :: Path.ofText (Switch.setting setting).longName, value]

/-- An option may stand behind these arguments: the last one does not wait for its value, and the two
dashes are not among them. -/
def TakesOption (front : List Bytes) : Prop :=
  ∃ r, front.foldlM Reading.read {} = .ok r ∧ r.onlyPaths = false ∧ r.wantsValue = none

theorem takesOption_nil : TakesOption [] := ⟨{}, rfl, rfl, rfl⟩

/-- The second command line has one more flag. -/
inductive AddsFlag (flag : Flag) : List Bytes → List Bytes → Prop where
  | intro {front back : List Bytes} {spelling : Bytes} (hfront : TakesOption front)
      (hspelling : spelling ∈ flag.spellings) :
    AddsFlag flag (front ++ back) (front ++ spelling :: back)

/-- The command lines differ in what they say about a setting at one place: each gives it some value, or
does not give it there. -/
inductive ChangesSetting (setting : Setting) : List Bytes → List Bytes → Prop where
  | intro {front spelled spelled' back : List Bytes} (hfront : TakesOption front)
      (hspelled : spelled = [] ∨ ∃ value, setting.Spelling value spelled)
      (hspelled' : spelled' = [] ∨ ∃ value, setting.Spelling value spelled') :
    ChangesSetting setting (front ++ (spelled ++ back)) (front ++ (spelled' ++ back))

namespace Reading

variable {r s t : Reading} {flag : Flag} {setting : Setting} {value spelling : Bytes}
  {front back spelled : List Bytes}

theorem read_flag (hopen : s.onlyPaths = false) (hspelling : spelling ∈ flag.spellings) :
    s.read spelling = (s.settle >>= (·.addFlag flag)) := by
  unfold read
  rw [hopen, if_neg Bool.false_ne_true]
  have hletter : ∀ x : Except Stop Reading, (x >>= (·.readShort [])) = x := by
    intro x
    cases x <;> rfl
  cases flag with
  | verbose =>
    rcases List.mem_cons.1 hspelling with rfl | hspelling
    · rfl
    · rw [List.mem_singleton.1 hspelling]
      exact hletter _
  | json | markdown | summary | sort =>
    rw [List.mem_singleton.1 hspelling]
    rfl

theorem readLong_setting (setting : Setting) (value : Bytes) :
    s.readLong (Path.ofText (Switch.setting setting).longName ++ equals :: value) =
      s.meetWith value (.setting setting) := by
  cases setting <;> rfl

theorem read_longName (hopen : s.onlyPaths = false) (setting : Setting) :
    s.read (dash :: dash :: Path.ofText (Switch.setting setting).longName) =
      s.meet (.setting setting) := by
  unfold read
  rw [hopen, if_neg Bool.false_ne_true]
  cases setting <;> rfl

theorem read_attached (hopen : s.onlyPaths = false) (setting : Setting) (value : Bytes) :
    s.read (dash :: dash ::
      (Path.ofText (Switch.setting setting).longName ++ equals :: value)) =
      s.meetWith value (.setting setting) := by
  rw [← readLong_setting]
  unfold read
  rw [hopen, if_neg Bool.false_ne_true]
  cases setting <;> rfl

theorem read_plain (hplain : IsPlain value) (hopen : s.onlyPaths = false) :
    s.read value = s.readPlain value := by
  unfold read
  rw [hopen, if_neg Bool.false_ne_true]
  split
  next first second rest =>
    have hfirst : first ≠ dash := by
      rcases hplain with hshort | hhead
      · simp only [List.length_cons] at hshort
        omega
      · exact fun h => hhead (congrArg some h)
    rw [if_neg fun h => hfirst h.1, if_neg hfirst]
  next => rfl

/-- A value that waits is given to its setting when it is looked at. -/
theorem settle_waiting (s : Reading) (setting : Setting) (value : Bytes) (hsettled : s.pending = none) :
    settle { s with pending := some (.setting setting (some value)) } = s.assign setting value := by
  have hs : { s with pending := none } = s := by rw [← hsettled]
  unfold settle
  dsimp only
  rw [hs]

/-- A spelled setting gets its value, at once or before the next argument. -/
theorem foldlM_spelling (hspelled : setting.Spelling value spelled) (hr : r.settle = .ok s)
    (hopen : r.onlyPaths = false)
    (h : (spelled ++ back).foldlM read r >>= settle = .ok t) :
    ∃ u, s.assign setting value = .ok u ∧ back.foldlM read u >>= settle = .ok t := by
  have hpending : s.pending = none := by rw [(settle_eq_ok_iff.1 hr).2]
  -- The name settles what waits in front of it; a value of its own waits until the rest settles it.
  cases hspelled with
  | attached =>
    rw [List.cons_append, List.nil_append, List.foldlM_cons, read_attached hopen, meetWith, hr] at h
    replace h : (s.assign setting value >>= fun u => back.foldlM read u) >>= settle = .ok t := h
    cases hassign : s.assign setting value with
    | error stop =>
      rw [hassign] at h
      cases h
    | ok u =>
      rw [hassign] at h
      exact ⟨u, rfl, h⟩
  | separate hplain =>
    have hvalue : read { s with pending := some (.setting setting none) } value =
        .ok { s with pending := some (.setting setting (some value)) } := by
      refine (read_plain hplain ?_).trans rfl
      exact (onlyPaths_of_settle hr).trans hopen
    rw [List.cons_append, List.cons_append, List.nil_append, List.foldlM_cons, read_longName hopen,
      meet, hr] at h
    replace h : ((value :: back).foldlM read { s with pending := some (.setting setting none) } >>=
        settle) = .ok t := h
    rw [List.foldlM_cons, hvalue] at h
    replace h : (back.foldlM read { s with pending := some (.setting setting (some value)) } >>=
        settle) = .ok t := h
    obtain ⟨u, hu⟩ := exists_settle rfl h
    refine ⟨u, (settle_waiting s setting value hpending).symm.trans hu, ?_⟩
    rw [← foldlM_settle hu, h]

/-- Arguments behind which an option may stand are looked at when the rest is understood. -/
theorem exists_front (hfront : TakesOption front)
    (h : (front ++ back).foldlM read {} >>= settle = .ok t) :
    ∃ r s, front.foldlM read {} = .ok r ∧ r.onlyPaths = false ∧ r.settle = .ok s ∧
      back.foldlM read s >>= settle = .ok t := by
  obtain ⟨r, hr, hopen, hwants⟩ := hfront
  rw [List.foldlM_append, hr] at h
  obtain ⟨s, hs⟩ := exists_settle hwants h
  exact ⟨r, s, hr, hopen, hs, (foldlM_settle hs back).symm.trans h⟩

/-- A setting that is spelled, or not, behind arguments behind which an option may stand. -/
theorem exists_spelled (hfront : TakesOption front)
    (hspelled : spelled = [] ∨ ∃ value, setting.Spelling value spelled)
    (h : (front ++ (spelled ++ back)).foldlM read {} >>= settle = .ok t) :
    ∃ r s u, front.foldlM read {} = .ok r ∧ r.settle = .ok s ∧
      (u = s ∨ ∃ value, s.assign setting value = .ok u) ∧
      back.foldlM read u >>= settle = .ok t := by
  obtain ⟨r, s, hr, hopen, hs, hrest⟩ := exists_front hfront h
  rcases hspelled with rfl | ⟨value, hvalue⟩
  · exact ⟨r, s, s, hr, hs, Or.inl rfl, hrest⟩
  · have hstart : settle s = .ok s := settle_settled hs
    obtain ⟨u, hu, hback⟩ :=
      foldlM_spelling hvalue hstart ((onlyPaths_of_settle hs).trans hopen) hrest
    exact ⟨r, s, u, hr, hs, Or.inr ⟨value, hu⟩, hback⟩

/-- Behind a setting, the rest of the arguments is understood and gives the same but for that setting,
whatever value it has got, also if it has none; then it has none in the end. -/
theorem exists_sameBut_of_assign {u u' : Reading} (hu : s.assign setting value = .ok u)
    (hu' : u' = s ∨ ∃ value, s.assign setting value = .ok u')
    (h : back.foldlM read u >>= settle = .ok t) :
    ∃ t', back.foldlM read u' >>= settle = .ok t' ∧ t.given.SameBut setting t'.given ∧
      t'.given.has setting = u'.given.has setting := by
  obtain ⟨-, given, hset, rfl⟩ := assign_eq_ok_iff.1 hu
  have hsets := Given.set_eq_ok_iff.1 hset
  have hlike : Alike (fun g g' => g.SameBut setting g' ∧ g.has setting = true ∧
      g'.has setting = u'.given.has setting) { s with given } u' := by
    rcases hu' with rfl | ⟨value', hvalue'⟩
    · exact ⟨rfl, rfl, hsets.sameBut.symm, hsets.has, rfl⟩
    · obtain ⟨-, given', hset', rfl⟩ := assign_eq_ok_iff.1 hvalue'
      have hsame := (Given.set_eq_ok_iff.1 hset').sameBut.trans hsets.sameBut.symm
      exact ⟨rfl, rfl, hsame, hsets.has, rfl⟩
  obtain ⟨t', ht', hlast⟩ := (lockstep_sameBut setting _).follows_foldlM back hlike t h trivial
  obtain ⟨hsame, -, hpresent⟩ := hlast.given
  exact ⟨t', ht', hsame, hpresent⟩

theorem sameBut_of_spelled {t' : Reading} (hfront : TakesOption front)
    (hspelled : spelled = [] ∨ ∃ value, setting.Spelling value spelled)
    (hspelled' : spelled' = [] ∨ ∃ value, setting.Spelling value spelled')
    (h : (front ++ (spelled ++ back)).foldlM read {} >>= settle = .ok t)
    (h' : (front ++ (spelled' ++ back)).foldlM read {} >>= settle = .ok t') :
    t.given.SameBut setting t'.given := by
  obtain ⟨r, s, u, hr, hs, hu, hback⟩ := exists_spelled hfront hspelled h
  obtain ⟨r', s', u', hr', hs', hu', hback'⟩ := exists_spelled hfront hspelled' h'
  cases hr.symm.trans hr'
  cases hs.symm.trans hs'
  -- The difference needs a reading that has got the setting: it is the first one or the second one.
  rcases hu with rfl | ⟨value, hvalue⟩
  · rcases hu' with rfl | ⟨value', hvalue'⟩
    · cases hback.symm.trans hback'
      exact rfl
    · obtain ⟨t'', ht'', hsame, -⟩ := exists_sameBut_of_assign hvalue' (Or.inl rfl) hback'
      cases ht''.symm.trans hback
      exact hsame.symm
  · obtain ⟨t'', ht'', hsame, -⟩ := exists_sameBut_of_assign hvalue hu' hback
    cases ht''.symm.trans hback'
    exact hsame

/-- A flag that is not met otherwise is one more flag. -/
theorem withFlag_of_spelling (hfront : TakesOption front) (hspelling : spelling ∈ flag.spellings)
    (h : (front ++ back).foldlM read {} >>= settle = .ok t) (hnew : flag ∉ t.given.flags) :
    ∃ t', (front ++ spelling :: back).foldlM read {} >>= settle = .ok t' ∧
      WithFlag flag t.given t'.given := by
  obtain ⟨r, s, hr, hopen, hs, hback⟩ := exists_front hfront h
  -- The flag has not been met in front of its place, or it would be there in the end.
  have hstart : flag ∉ s.given.flags := by
    intro hmem
    exact hnew (((lockstep_flag flag).follows_foldlM back ⟨rfl, rfl, rfl, hmem⟩).lasts hback)
  have hlike : Alike (WithFlag flag) s
      { s with given := { s.given with flags := s.given.flags ++ [flag] } } := by
    refine ⟨rfl, rfl, rfl, fun other => ?_⟩
    rw [List.mem_append, List.mem_singleton, or_comm]
  obtain ⟨t', ht', hlast⟩ := (lockstep_withFlag flag).follows_foldlM back hlike t hback hnew
  refine ⟨t', ?_, hlast.given⟩
  -- The flag itself settles what waits in front of it, and is added at once.
  have hread : r.read spelling =
      .ok { s with given := { s.given with flags := s.given.flags ++ [flag] } } := by
    rw [read_flag hopen hspelling, hs]
    exact if_neg (mt List.contains_iff_mem.1 hstart)
  rw [List.foldlM_append, hr, ← ht']
  show (List.foldlM read r (spelling :: back) >>= settle) = _
  rw [List.foldlM_cons, hread]
  rfl

end Reading

open Reading

variable {env env' : Environment} {arguments arguments' : List Bytes}
  {o o' : Options} {g g' : Given} {flag : Flag} {setting : Setting} {spelling : Bytes}

/-! ## Options -/

/-- Whether a flag is set. -/
def Options.hasFlag (o : Options) : Flag → Bool
  | .json => o.json
  | .markdown => o.markdown
  | .summary => o.summary
  | .verbose => o.verbose
  | .sort => o.sort

def Options.setFlag (o : Options) : Flag → Options
  | .json => { o with json := true }
  | .markdown => { o with markdown := true }
  | .summary => { o with summary := true }
  | .verbose => { o with verbose := true }
  | .sort => { o with sort := true }

/-- The options are the same but for one setting. -/
def Options.SameBut (o o' : Options) : Setting → Prop
  | .lang => o' = { o with lang := o'.lang }
  | .locale => o' = { o with locale := o'.locale }
  | .jobs => o' = { o with jobs := o'.jobs }
  | .reportOutput => o' = { o with reportOutput := o'.reportOutput }

theorem hasFlag_of_options (h : g.options = .ok o) (flag : Flag) :
    o.hasFlag flag = g.flags.contains flag := by
  unfold Given.options at h
  split at h
  next => cases h
  next =>
    cases h
    cases flag <;> rfl

theorem options_withFlag (hflag : WithFlag flag g g') (h : g.options = .ok o) :
    g'.options = .ok (o.setFlag flag) := by
  have hcontains : ∀ other : Flag,
      g'.flags.contains other = (other == flag || g.flags.contains other) := by
    intro other
    rw [Bool.eq_iff_iff, Bool.or_eq_true, List.contains_iff_mem, List.contains_iff_mem, beq_iff_eq]
    exact hflag.mem_iff other
  have hset := hflag.eq
  unfold Given.options at h ⊢
  rw [hset]
  cases hpath : g.path with
  | none =>
    rw [hpath] at h
    cases h
  | some path =>
    rw [hpath] at h
    cases h
    simp only [hcontains]
    cases flag <;> rfl

theorem options_sameBut (hsame : g.SameBut setting g') (h : g.options = .ok o)
    (h' : g'.options = .ok o') : o.SameBut o' setting := by
  have hpath := hsame.path
  unfold Given.options at h h'
  rw [hpath] at h'
  cases hg : g.path with
  | none =>
    rw [hg] at h
    cases h
  | some path =>
    rw [hg] at h h'
    cases h
    cases h'
    unfold Given.SameBut Given.without at hsame
    cases setting <;> simp_all [Options.SameBut]

theorem parse_eq_scan_iff : parse env arguments = .ok (.scan o) ↔
    ∃ t given, arguments.foldlM read {} >>= settle = .ok t ∧
      t.given.fromEnvironment env = .ok given ∧ given.options = .ok o := by
  unfold parse
  cases hread : arguments.foldlM read {} >>= settle with
  | error stop => cases stop <;> simp
  | ok t =>
    cases hgiven : t.given.fromEnvironment env with
    | error e => simp [bind, Except.bind, hgiven]
    | ok given =>
      cases hoptions : given.options with
      | error e => simp [bind, Except.bind, hgiven, hoptions]
      | ok o => simp [bind, Except.bind, pure, Except.pure, hgiven, hoptions]

/-- One more flag, wherever an option may stand, asks for the same with that flag. -/
theorem parse_addsFlag (hadds : AddsFlag flag arguments arguments')
    (h : parse env arguments = .ok (.scan o)) (hnew : o.hasFlag flag = false) :
    parse env arguments' = .ok (.scan (o.setFlag flag)) := by
  cases hadds with
  | intro hfront hspelling =>
    obtain ⟨t, given, ht, hgiven, hoptions⟩ := parse_eq_scan_iff.1 h
    have hflags := Given.flags_fromEnvironment hgiven
    have hmem : flag ∉ t.given.flags := by
      rw [← hflags, ← List.contains_iff_mem, ← hasFlag_of_options hoptions, hnew]
      exact Bool.false_ne_true
    obtain ⟨t', ht', hflag⟩ := withFlag_of_spelling hfront hspelling ht hmem
    have hgiven' := Given.fromEnvironment_withFlags hgiven t'.given.flags
    rw [← hflag.eq] at hgiven'
    refine parse_eq_scan_iff.2 ⟨t', _, ht', hgiven', options_withFlag ⟨rfl, ?_⟩ hoptions⟩
    rw [hflags]
    exact hflag.mem_iff

/-- Command lines and environments that differ in one setting ask for the same but for that setting, as
far as they are understood. -/
theorem parse_changesSetting (hchanges : ChangesSetting setting arguments arguments')
    (henv : ∀ other : Setting, other ≠ setting →
      env'.lookup other.variableName = env.lookup other.variableName)
    (h : parse env arguments = .ok (.scan o)) (h' : parse env' arguments' = .ok (.scan o')) :
    o.SameBut o' setting := by
  cases hchanges with
  | intro hfront hspelled hspelled' =>
    obtain ⟨t, given, ht, hgiven, hoptions⟩ := parse_eq_scan_iff.1 h
    obtain ⟨t', given', ht', hgiven', hoptions'⟩ := parse_eq_scan_iff.1 h'
    have hsame := sameBut_of_spelled hfront hspelled hspelled' ht ht'
    exact options_sameBut (hsame.fromEnvironment henv hgiven hgiven') hoptions hoptions'

/-- Only the variables of settings are looked at. -/
theorem parse_congr (henv : ∀ setting : Setting,
    env'.lookup setting.variableName = env.lookup setting.variableName) (arguments : List Bytes) :
    parse env' arguments = parse env arguments := by
  unfold parse
  simp only [Given.fromEnvironment_congr henv]

end SourceGrade.CommandLine
