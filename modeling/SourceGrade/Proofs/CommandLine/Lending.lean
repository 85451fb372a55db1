import SourceGrade.Proofs.CommandLine.Arguments

/-!
# Settings that arguments do not name

Arguments that do not name a setting are read alike whether or not it has got a value already: the same
is given, with that value besides, or the same is found at fault (`Reading.lends_foldlM`).
-/

namespace SourceGrade.CommandLine

/-- The setting among letters behind one dash. The letters of flags may stand in front of its own. -/
def shortSetting? : Bytes → Option Setting
  | [] => none
  | letter :: rest =>
    match Switch.ofShort? letter with
    | some (.setting setting) => some setting
    | some _ => shortSetting? rest
    | none => none

/-- The setting behind two dashes, with or without a value. -/
def longSetting? (argument : Bytes) : Option Setting :=
  match Switch.ofLong? (argument.takeWhile (· ≠ Reading.equals)) with
  | some (.setting setting) => some setting
  | _ => none

/-- The setting that an argument names. -/
def namedSetting? : Bytes → Option Setting
  | first :: second :: rest =>
    if first = Reading.dash ∧ second = Reading.dash then longSetting? rest
    else if first = Reading.dash then shortSetting? (second :: rest)
    else none
  | _ => none

/-- No argument in front of the two dashes names the setting. -/
def Setting.Omits (setting : Setting) : List Bytes → Prop
  | [] => True
  | argument :: arguments =>
    argument = [Reading.dash, Reading.dash] ∨
      namedSetting? argument ≠ some setting ∧ setting.Omits arguments

namespace Given

variable {source g h : Given} {setting other : Setting} {value : Bytes}

/-- What is given, but the setting is as in `source`. -/
def lend (g source : Given) (setting : Setting) : Given :=
  match setting with
  | .lang => { g with lang := source.lang }
  | .locale => { g with locale := source.locale }
  | .jobs => { g with jobs := source.jobs }
  | .reportOutput => { g with reportOutput := source.reportOutput }

theorem path_lend (g source : Given) (setting : Setting) :
    (g.lend source setting).path = g.path := by
  cases setting <;> rfl

theorem flags_lend (g source : Given) (setting : Setting) :
    (g.lend source setting).flags = g.flags := by
  cases setting <;> rfl

theorem has_lend (g source : Given) (hne : other ≠ setting) :
    (g.lend source setting).has other = g.has other := by
  cases setting <;> cases other <;> first | rfl | exact absurd rfl hne

theorem lend_setPath (g source : Given) (setting : Setting) (path : Option Path) :
    lend { g with path } source setting = { g.lend source setting with path } := by
  cases setting <;> rfl

theorem lend_setFlags (g source : Given) (setting : Setting) (flags : List Flag) :
    lend { g with flags } source setting = { g.lend source setting with flags } := by
  cases setting <;> rfl

/-- A value that a setting takes by itself is taken besides whatever is given. -/
theorem Sets.lend (hsets : Sets {} value setting source) (g : Given) :
    Sets g value setting (g.lend source setting) := by
  cases hsets with
  | lang hvalue => exact .lang hvalue
  | locale hvalue => exact .locale hvalue
  | jobs hvalue hcount => exact .jobs hvalue hcount
  | reportOutput hvalue => exact .reportOutput hvalue

theorem set_lend (g source : Given) (hne : other ≠ setting) (value : Bytes) :
    (g.lend source setting).set other value = (·.lend source setting) <$> g.set other value := by
  cases other with
  | lang | locale =>
    unfold set
    cases text value with
    | error e => rfl
    | ok text => cases setting <;> first | rfl | exact absurd rfl hne
  | jobs =>
    unfold set
    cases text value with
    | error e => rfl
    | ok text =>
      cases hcount : parseCount? text with
      | none => simp only [bind, Except.bind, hcount, Functor.map, Except.map]
      | some jobs =>
        simp only [bind, Except.bind, hcount, Functor.map, Except.map, pure, Except.pure]
        cases setting <;> first | rfl | exact absurd rfl hne
  | reportOutput =>
    unfold set
    cases nonempty value with
    | error e => rfl
    | ok path => cases setting <;> first | rfl | exact absurd rfl hne

end Given

namespace Reading

variable {r s t : Reading} {source : Given} {setting other : Setting} {closed : Bool} {value : Bytes}

/-- The setting has not got a value and does not wait for one, in front of the two dashes or, if
`closed`, behind them. -/
structure Lacks (setting : Setting) (closed : Bool) (r : Reading) : Prop where
  new : r.given.has setting = false
  pending_ne : ∀ value, r.pending ≠ some (.setting setting value)
  onlyPaths : r.onlyPaths = closed

theorem lacks_start (setting : Setting) : Lacks setting false {} := by
  refine ⟨?_, nofun, rfl⟩
  cases setting <;> rfl

/-- A reading that has got a setting as in `source` besides. -/
def lend (r : Reading) (source : Given) (setting : Setting) : Reading :=
  { r with given := r.given.lend source setting }

theorem given_lend (r : Reading) (source : Given) (setting : Setting) :
    (r.lend source setting).given = r.given.lend source setting := rfl

theorem pending_lend (r : Reading) (source : Given) (setting : Setting) :
    (r.lend source setting).pending = r.pending := rfl

/-- The second one has got the setting besides, and the first one still lacks it. -/
def Lends (source : Given) (setting : Setting) (closed : Bool) (x x' : Except Stop Reading) : Prop :=
  x' = (·.lend source setting) <$> x ∧ ∀ t, x = .ok t → t.Lacks setting closed

theorem lends_error (stop : Stop) : Lends source setting closed (.error stop) (.error stop) :=
  ⟨rfl, nofun⟩

theorem lends_ok (h : r.Lacks setting closed) :
    Lends source setting closed (.ok r) (.ok (r.lend source setting)) := by
  refine ⟨rfl, fun t ht => ?_⟩
  cases ht
  exact h

theorem Lends.bind {x x' : Except Stop Reading} {next : Reading → Except Stop Reading}
    (h : Lends source setting closed x x')
    (hnext : ∀ t : Reading, t.Lacks setting closed →
      Lends source setting closed (next t) (next (t.lend source setting))) :
    Lends source setting closed (x >>= next) (x' >>= next) := by
  obtain ⟨rfl, hlacks⟩ := h
  cases x with
  | error stop => exact lends_error stop
  | ok t => exact hnext t (hlacks t rfl)

section lacks

variable (source) (h : r.Lacks setting closed)

include h

theorem lends_assign (hne : other ≠ setting) (value : Bytes) :
    Lends source setting closed (r.assign other value) ((r.lend source setting).assign other value) := by
  unfold assign
  rw [given_lend, Given.has_lend _ _ hne, Given.set_lend _ _ hne]
  cases r.given.has other with
  | true => exact lends_error _
  | false =>
    cases hset : r.given.set other value with
    | error e => exact lends_error _
    | ok given =>
      refine lends_ok ⟨?_, h.pending_ne, h.onlyPaths⟩
      rw [(Given.set_eq_ok_iff.1 hset).has_of_ne hne.symm]
      exact h.new

theorem lends_addFlag (flag : Flag) :
    Lends source setting closed (r.addFlag flag) ((r.lend source setting).addFlag flag) := by
  unfold addFlag
  rw [given_lend, Given.flags_lend]
  split
  next => exact lends_error _
  next =>
    rw [← Given.lend_setFlags]
    refine lends_ok ⟨?_, h.pending_ne, h.onlyPaths⟩
    rw [← h.new]
    cases setting <;> rfl

theorem lends_settle : Lends source setting closed r.settle (r.lend source setting).settle := by
  have hsettled : Lacks setting closed { r with pending := none } := ⟨h.new, nofun, h.onlyPaths⟩
  unfold settle
  rw [pending_lend]
  split
  next => exact lends_ok hsettled
  next => exact lends_error _
  next other value hpending =>
    refine lends_assign source hsettled ?_ value
    rintro rfl
    exact h.pending_ne (some value) hpending
  next path _ =>
    cases Given.nonempty path with
    | error e => exact lends_error _
    | ok path =>
      dsimp only
      rw [given_lend, ← Given.lend_setPath]
      refine lends_ok (r := { r with given := { r.given with path := some path }, pending := none })
        ⟨?_, nofun, h.onlyPaths⟩
      rw [← h.new]
      cases setting <;> rfl

theorem lends_meet {switch : Switch} (hne : switch ≠ .setting setting) :
    Lends source setting closed (r.meet switch) ((r.lend source setting).meet switch) := by
  have hsettle := lends_settle source h
  cases switch with
  | help | version =>
    obtain ⟨heq, -⟩ := hsettle
    unfold meet
    rw [heq]
    cases r.settle <;> exact lends_error _
  | flag flag => exact hsettle.bind fun t ht => lends_addFlag source ht flag
  | setting other =>
    refine hsettle.bind fun t ht => lends_ok ⟨ht.new, ?_, ht.onlyPaths⟩
    intro value hpending
    cases hpending
    exact hne rfl

theorem lends_meetWith {switch : Switch} (hne : switch ≠ .setting setting) (value : Bytes) :
    Lends source setting closed (r.meetWith value switch)
      ((r.lend source setting).meetWith value switch) := by
  cases switch with
  | setting other =>
    refine (lends_settle source h).bind fun t ht => lends_assign source ht ?_ value
    rintro rfl
    exact hne rfl
  | flag | help | version => exact lends_error _

theorem lends_readLong {argument : Bytes} (hname : longSetting? argument ≠ some setting) :
    Lends source setting closed (r.readLong argument) ((r.lend source setting).readLong argument) := by
  unfold longSetting? at hname
  unfold readLong
  dsimp only
  split
  next => exact lends_error _
  next switch hswitch =>
    have hne : switch ≠ .setting setting := by
      rintro rfl
      rw [hswitch] at hname
      exact hname rfl
    split
    next => exact lends_meet source h hne
    next value _ => exact lends_meetWith source h hne value

omit h in
theorem lends_readShort {rest : Bytes} (hname : shortSetting? rest ≠ some setting)
    (h : r.Lacks setting closed) :
    Lends source setting closed (r.readShort rest) ((r.lend source setting).readShort rest) := by
  induction rest generalizing r with
  | nil => exact lends_ok h
  | cons letter rest ih =>
    rw [shortSetting?] at hname
    rw [readShort, readShort]
    split
    next => exact lends_error _
    next other hother =>
      have hne : Switch.setting other ≠ .setting setting := by
        rintro ⟨⟩
        rw [hother] at hname
        exact hname rfl
      split
      next => exact lends_meet source h hne
      next => exact lends_meetWith source h hne _
    next switch hother hswitch =>
      have hne : switch ≠ .setting setting := hother setting
      refine (lends_meet source h hne).bind fun t ht => ih ?_ ht
      rw [hswitch] at hname
      cases switch with
      | setting other => exact absurd rfl (hother other)
      | flag | help | version => exact hname

theorem lends_readPath (argument : Bytes) :
    Lends source setting closed (r.readPath argument) ((r.lend source setting).readPath argument) := by
  unfold readPath
  rw [pending_lend, given_lend, Given.path_lend]
  split
  next => exact lends_error _
  next => exact lends_error _
  next => exact (lends_settle source h).bind fun t ht => lends_ok ⟨ht.new, nofun, ht.onlyPaths⟩

theorem lends_readPlain (argument : Bytes) :
    Lends source setting closed (r.readPlain argument) ((r.lend source setting).readPlain argument) := by
  unfold readPlain
  rw [show (r.lend source setting).wantsValue = r.wantsValue from rfl]
  split
  next other hwants =>
    refine lends_ok ⟨h.new, fun value hpending => ?_, h.onlyPaths⟩
    -- The setting that gets the argument is the one that has been waiting.
    cases hpending
    unfold wantsValue at hwants
    split at hwants
    next hbefore =>
      cases hwants
      exact h.pending_ne none hbefore
    next => cases hwants
  next => exact lends_readPath source h argument

theorem lends_read {argument : Bytes} (hname : closed = true ∨ namedSetting? argument ≠ some setting) :
    Lends source setting (closed || decide (argument = [dash, dash])) (r.read argument)
      ((r.lend source setting).read argument) := by
  unfold read
  rw [show (r.lend source setting).onlyPaths = r.onlyPaths from rfl, h.onlyPaths]
  cases closed with
  | true => exact lends_readPath source h argument
  | false =>
    have hname := hname.resolve_left Bool.false_ne_true
    unfold namedSetting? at hname
    rw [Bool.false_or, if_neg Bool.false_ne_true, if_neg Bool.false_ne_true]
    split
    next first second rest =>
      dsimp only at hname
      split
      next hlong =>
        rw [if_pos hlong] at hname
        split
        next hrest =>
          rw [hlong.1, hlong.2, hrest, decide_eq_true rfl]
          exact lends_ok ⟨h.new, h.pending_ne, rfl⟩
        next hrest =>
          rw [decide_eq_false (fun heq => hrest (List.cons.inj (List.cons.inj heq).2).2)]
          exact lends_readLong source h hname
      next hlong =>
        rw [if_neg hlong] at hname
        rw [decide_eq_false (fun heq =>
          hlong ⟨(List.cons.inj heq).1, (List.cons.inj (List.cons.inj heq).2).1⟩)]
        split
        next hshort =>
          rw [if_pos hshort] at hname
          exact lends_readShort source hname h
        next => exact lends_readPlain source h _
    next hone =>
      rw [decide_eq_false (fun heq => hone dash dash [] heq)]
      exact lends_readPlain source h argument

omit h in
/-- Arguments that do not name a setting are read alike, whether it has got a value or not. -/
theorem lends_foldlM {front back : List Bytes} (hname : closed = true ∨ setting.Omits (front ++ back))
    (h : r.Lacks setting closed) : ∃ closed', (closed' = true ∨ setting.Omits back) ∧
      Lends source setting closed' (front.foldlM read r)
        (front.foldlM read (r.lend source setting)) := by
  -- Behind the two dashes no argument names a setting, whatever it looks like.
  induction front generalizing r closed with
  | nil => exact ⟨closed, hname, lends_ok h⟩
  | cons argument front ih =>
    have hnamed : closed = true ∨ namedSetting? argument ≠ some setting := by
      refine hname.imp_right fun homits => homits.elim ?_ And.left
      rintro rfl
      exact nofun
    have hrest : (closed || decide (argument = [dash, dash])) = true ∨
        setting.Omits (front ++ back) := by
      rw [Bool.or_eq_true, decide_eq_true_iff, or_assoc]
      exact hname.imp_right fun homits => homits.imp_right And.right
    obtain ⟨hread, hlacks⟩ := lends_read source h hnamed
    rw [List.foldlM_cons, List.foldlM_cons, hread]
    cases ht : r.read argument with
    | error stop => exact ⟨true, .inl rfl, lends_error stop⟩
    | ok t => exact ih hrest (hlacks t ht)

end lacks

end Reading

end SourceGrade.CommandLine
