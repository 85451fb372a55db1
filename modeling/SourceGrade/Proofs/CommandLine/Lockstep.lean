import SourceGrade.Proofs.CommandLine.Arguments

/-!
# Readings in step

Two readings that differ in what is given go through the same arguments in step, as long as nothing is
given that the difference does not allow (`Lockstep.follows_foldlM`). A flag that one of them has got
early keeps them in step until the other one meets it (`lockstep_withFlag`), and so do different values of
a setting (`lockstep_sameBut`).
-/

namespace SourceGrade.CommandLine

namespace Reading

variable {r r' s t : Reading}

/-- Two readings at the same place with different things given. -/
structure Alike (Q : Given → Given → Prop) (r r' : Reading) : Prop where
  pending : r'.pending = r.pending
  onlyPaths : r'.onlyPaths = r.onlyPaths
  given : Q r.given r'.given

/-- Where the first one goes on to a reading with nothing given that is not allowed, the second one goes
on to a reading like it. -/
def Follows (allowed : Given → Prop) (Q : Given → Given → Prop) (x x' : Except Stop Reading) : Prop :=
  ∀ t, x = .ok t → allowed t.given → ∃ t', x' = .ok t' ∧ Alike Q t t'

/-- What is not allowed stays so, whatever is read. -/
structure Stays (allowed : Given → Prop) : Prop where
  settle : ∀ {r t : Reading}, r.settle = .ok t → allowed t.given → allowed r.given
  addFlag : ∀ {r t : Reading} {flag : Flag}, r.addFlag flag = .ok t → allowed t.given →
    allowed r.given
  assign : ∀ {r t : Reading} {setting : Setting} {value : Bytes},
    r.assign setting value = .ok t → allowed t.given → allowed r.given
  readShort : ∀ {r t : Reading} {rest : Bytes}, r.readShort rest = .ok t →
    allowed t.given → allowed r.given
  read : ∀ {r t : Reading} {argument : Bytes}, r.read argument = .ok t →
    allowed t.given → allowed r.given

theorem stays_true : Stays fun _ => True :=
  ⟨fun _ _ => trivial, fun _ _ => trivial, fun _ _ => trivial, fun _ _ => trivial, fun _ _ => trivial⟩

/-- A difference in what is given that stays whatever else is given, as long as that is allowed. -/
structure Lockstep (allowed : Given → Prop) (Q : Given → Given → Prop) : Prop where
  stays : Stays allowed
  path : ∀ {g g' : Given}, Q g g' → g'.path = g.path
  setPath : ∀ {g g' : Given} (path : Option Path), Q g g' → Q { g with path } { g' with path }
  set : ∀ {g g' h : Given} {setting : Setting} {value : Bytes}, Q g g' →
    g.has setting = false → g.set setting value = .ok h → allowed h →
      g'.has setting = false ∧ ∃ h', g'.set setting value = .ok h' ∧ Q h h'
  addFlag : ∀ {g g' : Given} {flag : Flag}, Q g g' → flag ∉ g.flags →
    allowed { g with flags := g.flags ++ [flag] } → flag ∉ g'.flags ∧
      Q { g with flags := g.flags ++ [flag] } { g' with flags := g'.flags ++ [flag] }

variable {allowed : Given → Prop} {Q : Given → Given → Prop}

theorem follows_error (stop : Stop) (x' : Except Stop Reading) :
    Follows allowed Q (.error stop) x' := fun _ h => nomatch h

theorem follows_ok (h : Alike Q r r') : Follows allowed Q (.ok r) (.ok r') := by
  intro t ht _
  cases ht
  exact ⟨r', rfl, h⟩

theorem Follows.bind {x x' : Except Stop Reading} {next : Reading → Except Stop Reading}
    (h : Follows allowed Q x x')
    (hnext : ∀ {t t'}, Alike Q t t' → Follows allowed Q (next t) (next t'))
    (hallowed : ∀ {t u}, next t = .ok u → allowed u.given → allowed t.given) :
    Follows allowed Q (x >>= next) (x' >>= next) := by
  intro u hu hok
  cases x with
  | error stop => cases hu
  | ok t =>
    have hu : next t = .ok u := hu
    obtain ⟨t', rfl, hlike⟩ := h t rfl (hallowed hu hok)
    exact hnext hlike u hu hok

namespace Lockstep

variable (hQ : Lockstep allowed Q) (h : Alike Q r r')

include hQ h

theorem follows_assign (setting : Setting) (value : Bytes) :
    Follows allowed Q (r.assign setting value) (r'.assign setting value) := by
  intro t ht hok
  obtain ⟨hnew, given, hset, rfl⟩ := assign_eq_ok_iff.1 ht
  obtain ⟨hnew', given', hset', hgiven⟩ := hQ.set h.given hnew hset hok
  exact ⟨_, assign_eq_ok_iff.2 ⟨hnew', given', hset', rfl⟩, h.pending, h.onlyPaths, hgiven⟩

theorem follows_addFlag (flag : Flag) :
    Follows allowed Q (r.addFlag flag) (r'.addFlag flag) := by
  intro t ht hok
  unfold Reading.addFlag at ht ⊢
  split at ht
  next => cases ht
  next hnew =>
    cases ht
    obtain ⟨hnew', hgiven⟩ := hQ.addFlag h.given (mt List.contains_iff_mem.2 hnew) hok
    rw [if_neg (mt List.contains_iff_mem.1 hnew')]
    exact ⟨_, rfl, h.pending, h.onlyPaths, hgiven⟩

theorem follows_settle : Follows allowed Q r.settle r'.settle := by
  have hsettled : Alike Q { r with pending := none } { r' with pending := none } :=
    ⟨rfl, h.onlyPaths, h.given⟩
  unfold settle
  rw [h.pending]
  split
  next => exact follows_ok hsettled
  next => exact follows_error _ _
  next setting value _ => exact hQ.follows_assign hsettled setting value
  next path _ =>
    cases Given.nonempty path with
    | error e => exact follows_error _ _
    | ok path => exact follows_ok ⟨rfl, h.onlyPaths, hQ.setPath _ h.given⟩

theorem follows_meet (switch : Switch) : Follows allowed Q (r.meet switch) (r'.meet switch) := by
  have hsettle := hQ.follows_settle h
  cases switch with
  | help | version =>
    -- Neither goes on, whether what waits can be looked at or not.
    intro t ht
    simp only [meet] at ht
    cases hr : r.settle <;> rw [hr] at ht <;> cases ht
  | flag flag => exact hsettle.bind (hQ.follows_addFlag · flag) hQ.stays.addFlag
  | setting setting =>
    refine hsettle.bind (fun hlike => follows_ok ⟨rfl, hlike.onlyPaths, hlike.given⟩) ?_
    intro t u hu hok
    cases hu
    exact hok

theorem follows_meetWith (value : Bytes) (switch : Switch) :
    Follows allowed Q (r.meetWith value switch) (r'.meetWith value switch) := by
  cases switch with
  | setting setting =>
    exact (hQ.follows_settle h).bind (hQ.follows_assign · setting value) hQ.stays.assign
  | flag | help | version => exact follows_error _ _

theorem follows_readLong (argument : Bytes) :
    Follows allowed Q (r.readLong argument) (r'.readLong argument) := by
  unfold readLong
  dsimp only
  split
  next => exact follows_error _ _
  next switch _ =>
    split
    next => exact hQ.follows_meet h switch
    next value _ => exact hQ.follows_meetWith h value switch

omit h in
theorem follows_readShort (rest : Bytes) (h : Alike Q r r') :
    Follows allowed Q (r.readShort rest) (r'.readShort rest) := by
  induction rest generalizing r r' with
  | nil => exact follows_ok h
  | cons letter rest ih =>
    rw [readShort, readShort]
    split
    next => exact follows_error _ _
    next setting _ =>
      split
      next => exact hQ.follows_meet h _
      next b value => exact hQ.follows_meetWith h _ _
    next switch _ _ => exact (hQ.follows_meet h switch).bind ih hQ.stays.readShort

theorem follows_readPath (argument : Bytes) :
    Follows allowed Q (r.readPath argument) (r'.readPath argument) := by
  unfold readPath
  rw [h.pending, hQ.path h.given]
  split
  next => exact follows_error _ _
  next => exact follows_error _ _
  next =>
    refine (hQ.follows_settle h).bind (fun hlike => follows_ok ⟨rfl, hlike.onlyPaths, hlike.given⟩) ?_
    intro t u hu hok
    cases hu
    exact hok

theorem follows_readPlain (argument : Bytes) :
    Follows allowed Q (r.readPlain argument) (r'.readPlain argument) := by
  unfold readPlain wantsValue
  rw [h.pending]
  split
  next setting _ => exact follows_ok ⟨rfl, h.onlyPaths, h.given⟩
  next => exact hQ.follows_readPath h argument

theorem follows_read (argument : Bytes) :
    Follows allowed Q (r.read argument) (r'.read argument) := by
  unfold read
  rw [h.onlyPaths]
  split
  next => exact hQ.follows_readPath h argument
  next =>
    split
    next first second rest =>
      split
      next =>
        split
        next => exact follows_ok ⟨h.pending, rfl, h.given⟩
        next => exact hQ.follows_readLong h rest
      next =>
        split
        next => exact hQ.follows_readShort (second :: rest) h
        next => exact hQ.follows_readPlain h _
    next => exact hQ.follows_readPlain h argument

omit h in
theorem follows_foldlM (arguments : List Bytes) (h : Alike Q r r') :
    Follows allowed Q (arguments.foldlM read r >>= settle) (arguments.foldlM read r' >>= settle) := by
  induction arguments generalizing r r' with
  | nil => exact hQ.follows_settle h
  | cons argument arguments ih =>
    rw [List.foldlM_cons, List.foldlM_cons, bind_assoc, bind_assoc]
    refine (hQ.follows_read h argument).bind ih ?_
    -- What is not allowed behind the first argument is not allowed behind the others.
    clear ih h
    intro t u hu hok
    induction arguments generalizing t with
    | nil => exact hQ.stays.settle hu hok
    | cons argument arguments ih =>
      rw [List.foldlM_cons, bind_assoc] at hu
      cases hread : t.read argument with
      | error stop =>
        rw [hread] at hu
        cases hu
      | ok next =>
        rw [hread] at hu
        exact hQ.stays.read hread (ih hu)

end Lockstep

/-! ## Differences that stay -/

section lasting

variable {P : Given → Prop} (hsetPath : ∀ {g : Given} (path : Option Path), P g → P { g with path })
  (hset : ∀ {g h : Given} {setting : Setting} {value : Bytes}, P g → g.Sets value setting h → P h)
  (haddFlag : ∀ {g : Given} (flag : Flag), P g → P { g with flags := g.flags ++ [flag] })

include hsetPath hset haddFlag

/-- What stays true whatever else is given keeps a reading in step with itself. -/
theorem lockstep_lasting : Lockstep (fun _ => True) (fun g g' => g' = g ∧ P g) where
  stays := stays_true
  path h := h.1 ▸ rfl
  setPath path h := ⟨h.1 ▸ rfl, hsetPath path h.2⟩
  set := by
    rintro g _ h setting value ⟨rfl, hg⟩ hnew hsets -
    exact ⟨hnew, h, hsets, rfl, hset hg (Given.set_eq_ok_iff.1 hsets)⟩
  addFlag := by
    rintro g _ flag ⟨rfl, hg⟩ hnew -
    exact ⟨hnew, rfl, haddFlag flag hg⟩

end lasting

/-- What is true behind a step in step with itself. -/
theorem Follows.lasts {P : Given → Prop} {x : Except Stop Reading}
    (h : Follows (fun _ => True) (fun g g' => g' = g ∧ P g) x x) (hx : x = .ok t) : P t.given := by
  obtain ⟨t', -, hlike⟩ := h t hx trivial
  exact hlike.given.2

/-! ## A flag more -/

theorem lockstep_flag (flag : Flag) :
    Lockstep (fun _ => True) (fun g g' => g' = g ∧ flag ∈ g.flags) := by
  apply lockstep_lasting
  · exact fun _ h => h
  · exact fun h hsets => hsets.flags.symm ▸ h
  · exact fun _ h => List.mem_append_left _ h

theorem stays_notMem (flag : Flag) : Stays (flag ∉ ·.flags) := by
  have hlast := lockstep_flag flag
  have hsame {r : Reading} (h : flag ∈ r.given.flags) :
      Alike (fun g g' => g' = g ∧ flag ∈ g.flags) r r := ⟨rfl, rfl, rfl, h⟩
  constructor
  -- A flag that has been met is kept by whatever is done, so it was not there before.
  · exact fun ht hok hr => hok ((hlast.follows_settle (hsame hr)).lasts ht)
  · exact fun ht hok hr => hok ((hlast.follows_addFlag (hsame hr) _).lasts ht)
  · exact fun ht hok hr => hok ((hlast.follows_assign (hsame hr) _ _).lasts ht)
  · exact fun ht hok hr => hok ((hlast.follows_readShort _ (hsame hr)).lasts ht)
  · exact fun ht hok hr => hok ((hlast.follows_read (hsame hr) _).lasts ht)

/-- The same things are given, and one more flag. -/
structure WithFlag (flag : Flag) (g g' : Given) : Prop where
  eq : g' = { g with flags := g'.flags }
  mem_iff : ∀ other, other ∈ g'.flags ↔ other = flag ∨ other ∈ g.flags

/-- Readings of which one has got a flag early are in step until the other one meets it. -/
theorem lockstep_withFlag (flag : Flag) : Lockstep (flag ∉ ·.flags) (WithFlag flag) where
  stays := stays_notMem flag
  path h := by rw [h.eq]
  setPath path h := ⟨by rw [h.eq], h.mem_iff⟩
  set := by
    intro g g' given setting value h hnew hset _
    have hsets := Given.set_eq_ok_iff.1 hset
    refine ⟨?_, { given with flags := g'.flags }, ?_, rfl, ?_⟩
    · rw [h.eq, ← hnew]
      cases setting <;> rfl
    · rw [h.eq]
      exact Given.set_eq_ok_iff.2 (hsets.withFlags g'.flags)
    · rw [hsets.flags]
      exact h.mem_iff
  addFlag := by
    intro g g' other h hnew hallowed
    -- The flag is not met here: with it, the first one would have given what is not allowed.
    have hne : other ≠ flag := by
      rintro rfl
      exact hallowed (List.mem_append_right _ (List.mem_singleton_self other))
    refine ⟨?_, ?_, ?_⟩
    · rw [h.mem_iff]
      exact not_or.2 ⟨hne, hnew⟩
    · rw [h.eq]
    · intro added
      rw [List.mem_append, List.mem_append, h.mem_iff, or_assoc]

/-! ## Another value -/

/-- Readings of which one has got a setting, and the other one has another value of it or none, are in
step: the setting is not met again, so that the other one has none in the end if it had none. -/
theorem lockstep_sameBut (setting : Setting) (present : Bool) :
    Lockstep (fun _ => True) (fun g g' =>
      g.SameBut setting g' ∧ g.has setting = true ∧ g'.has setting = present) where
  stays := stays_true
  path h := h.1.path
  setPath path h := by
    obtain ⟨hsame, hhas, hpresent⟩ := h
    refine ⟨hsame.setPath path, ?_, ?_⟩
    · rw [← hhas]
      cases setting <;> rfl
    · rw [← hpresent]
      cases setting <;> rfl
  set := by
    rintro g g' given other value ⟨hsame, hhas, hpresent⟩ hnew hset -
    have hsets := Given.set_eq_ok_iff.1 hset
    have hne : other ≠ setting := by
      rintro rfl
      rw [hhas] at hnew
      cases hnew
    obtain ⟨given', hsets'⟩ := hsets.exists_sets g'
    refine ⟨?_, given', Given.set_eq_ok_iff.2 hsets', hsame.of_sets hne hsets hsets', ?_, ?_⟩
    · rw [hsame.has hne, hnew]
    · rw [hsets.has_of_ne hne.symm, hhas]
    · rw [hsets'.has_of_ne hne.symm, hpresent]
  addFlag := by
    rintro g g' flag ⟨hsame, hhas, hpresent⟩ hnew -
    rw [hsame.flags]
    refine ⟨hnew, hsame.setFlags _, ?_, ?_⟩
    · rw [← hhas]
      cases setting <;> rfl
    · rw [← hpresent]
      cases setting <;> rfl

end Reading

end SourceGrade.CommandLine
