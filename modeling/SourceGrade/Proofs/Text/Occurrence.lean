import SourceGrade.Text.Pattern

/-!
# Occurrences

Where literals stand in a text, whatever matches there are before. Main statement: as long as the
literals of a pattern cannot overlap (`Pattern.Separate`), a scan finds a match at every position
that has one (`findAll_eq_flatMap`, `findAll_eq_occurrences`).
-/

namespace SourceGrade

theorem getLast?_cons_or (a : α) (list : List α) (before : Option α) :
    (a :: list).getLast?.or before = list.getLast?.or (some a) := by
  rw [List.getLast?_cons]
  cases list.getLast? <;> rfl

namespace Text

/-- Whether a literal stands in the text at a position. -/
def standsAt (text literal : Text) (position : Nat) : Bool := literal.isPrefixOf (text.drop position)

/-- The positions of the literals in a text, each with the literal that stands there, in order. -/
def occurrences (literals : List Text) (text : Text) : List (Nat × Text) :=
  (List.range text.length).flatMap fun position =>
    (literals.filter (text.standsAt · position)).map (position, ·)

def charBefore? (text : Text) (position : Nat) : Option Char := (text.take position).getLast?

/-- Whether no word goes on at a position: the character in front is no word character. -/
def opensWord (text : Text) (position : Nat) : Bool := !(text.charBefore? position).any isWordChar

theorem standsAt_iff {text literal : Text} {position : Nat} :
    text.standsAt literal position = true ↔ literal <+: text.drop position :=
  List.isPrefixOf_iff_prefix

theorem mem_occurrences_iff {literals : List Text} (hne : ∀ literal ∈ literals, literal ≠ [])
    {text literal : Text} {position : Nat} :
    (position, literal) ∈ text.occurrences literals ↔
      literal ∈ literals ∧ text.standsAt literal position = true := by
  simp only [occurrences, List.mem_flatMap, List.mem_range, List.mem_map, List.mem_filter,
    Prod.mk.injEq]
  constructor
  · rintro ⟨_, -, _, hliteral, rfl, rfl⟩
    exact hliteral
  · rintro ⟨hmem, hstands⟩
    refine ⟨position, ?_, literal, ⟨hmem, hstands⟩, rfl, rfl⟩
    -- A literal has a first character, so that it does not stand at the end.
    have hlength := (standsAt_iff.1 hstands).length_le
    have hpos := List.length_pos_iff.2 (hne literal hmem)
    rw [List.length_drop] at hlength
    omega

end Text

theorem any_congr_of_mem {list : List α} {q q' : α → Bool} (h : ∀ a ∈ list, q a = q' a) :
    list.any q = list.any q' := by
  rw [Bool.eq_iff_iff, List.any_eq_true, List.any_eq_true]
  exact exists_congr fun a => and_congr_right fun ha => by rw [h a ha]

theorem find?_congr_of_mem {list : List α} {q q' : α → Bool} (h : ∀ a ∈ list, q a = q' a) :
    list.find? q = list.find? q' := by
  rw [← List.head?_filter, List.filter_congr h, List.head?_filter]

theorem toList_find?_eq_filter {list : List α} {q : α → Bool} (hnodup : list.Nodup)
    (honly : ∀ a ∈ list, ∀ b ∈ list, q a = true → q b = true → a = b) :
    (list.find? q).toList = list.filter q := by
  induction list with
  | nil => rfl
  | cons a rest ih =>
    rcases List.nodup_cons.1 hnodup with ⟨hnotMem, hrest⟩
    cases ha : q a with
    | true =>
      have hnone : rest.filter q = [] := by
        rw [List.filter_eq_nil_iff]
        intro b hb hqb
        have hab := honly a List.mem_cons_self b (List.mem_cons_of_mem a hb) ha hqb
        exact hnotMem (hab ▸ hb)
      rw [List.find?_cons_of_pos ha, List.filter_cons_of_pos ha, hnone]
      rfl
    | false =>
      have ha' : ¬ q a = true := Bool.not_eq_true _ ▸ ha
      rw [List.find?_cons_of_neg ha', List.filter_cons_of_neg ha']
      exact ih hrest fun b hb c hc =>
        honly b (List.mem_cons_of_mem a hb) c (List.mem_cons_of_mem a hc)

theorem length_flatMap_eq_countP {list : List α} {f : α → List β} {q : α → Bool}
    (h : ∀ a, (f a).length = if q a then 1 else 0) : (list.flatMap f).length = list.countP q := by
  induction list with
  | nil => rfl
  | cons a rest ih =>
    rw [List.flatMap_cons, List.length_append, h, ih, List.countP_cons, Nat.add_comm]

namespace Pattern

variable {p : Pattern}

/-- No literal of the pattern starts where another one or itself stands, not even with its first
characters at the end of the text. -/
structure Separate (p : Pattern) : Prop where
  nodup : p.literals.Nodup
  ne_nil : ∀ literal ∈ p.literals, literal ≠ []
  apart : ∀ first ∈ p.literals, ∀ second ∈ p.literals, ∀ offset < first.length,
    first.drop offset <+: second ∨ second <+: first.drop offset → offset = 0 ∧ first = second

/-- The matches at all positions of a text, also those that a scan passes over. -/
def everyMatch (p : Pattern) (before : Option Char) : Text → List Text
  | [] => []
  | c :: rest => (p.matchAt before (c :: rest)).toList ++ p.everyMatch (some c) rest

theorem matchAt_eq_some {before : Option Char} {text literal : Text}
    (h : p.matchAt before text = some literal) : literal ∈ p.literals ∧ literal <+: text := by
  unfold matchAt at h
  split at h
  next found hfound =>
    have hliteral : found = literal := by
      split at h
      · cases h
      · exact Option.some.inj h
    subst hliteral
    have hprefix : found.isPrefixOf text = true :=
      List.find?_some (p := fun literal : Text => literal.isPrefixOf text) hfound
    exact ⟨List.mem_of_find?_eq_some hfound, List.isPrefixOf_iff_prefix.1 hprefix⟩
  next => cases h

/-- The matches of a scan are literals of the pattern. -/
theorem mem_literals_of_mem_scan {before : Option Char} {covered : Nat} {text found : Text}
    (h : found ∈ p.scan before covered text) : found ∈ p.literals := by
  fun_induction p.scan before covered text with
  | case1 => cases h
  | case2 before c rest covered ih => exact ih h
  | case3 before c rest literal hmatch ih =>
    cases List.mem_cons.1 h with
    | inl heq => exact heq ▸ (matchAt_eq_some hmatch).1
    | inr hrest => exact ih hrest
  | case4 before c rest hmatch ih => exact ih h

/-- Behind a match nothing starts before its end. -/
theorem Separate.not_prefix_drop (hp : p.Separate) {first second text : Text} {offset : Nat}
    (hfirst : first ∈ p.literals) (hsecond : second ∈ p.literals) (hstands : first <+: text)
    (hpos : 0 < offset) (hinside : offset < first.length) : ¬ second <+: text.drop offset := by
  intro hprefix
  have hrest : first.drop offset <+: text.drop offset := by
    rcases hstands with ⟨behind, rfl⟩
    rw [List.drop_append_of_le_length (Nat.le_of_lt hinside)]
    exact List.prefix_append _ _
  have hmeet := List.prefix_or_prefix_of_prefix hrest hprefix
  have hzero := (hp.apart first hfirst second hsecond offset hinside hmeet).1
  omega

/-- Covered characters at which nothing starts need not be passed over. -/
theorem scan_eq_everyMatch (hp : p.Separate) (before : Option Char) (covered : Nat) (text : Text)
    (hcovered : ∀ offset < covered, ∀ literal ∈ p.literals, ¬ literal <+: text.drop offset) :
    p.scan before covered text = p.everyMatch before text := by
  induction text generalizing before covered with
  | nil => rfl
  | cons c rest ih =>
    rw [everyMatch]
    cases covered with
    | succ covered =>
      -- Nothing starts at a covered character, so that passing it over loses nothing.
      have hnone : p.matchAt before (c :: rest) = none := by
        cases hmatch : p.matchAt before (c :: rest) with
        | none => rfl
        | some literal =>
          rcases matchAt_eq_some hmatch with ⟨hmem, hprefix⟩
          exact absurd hprefix (hcovered 0 (Nat.succ_pos _) literal hmem)
      rw [scan, hnone, Option.toList_none, List.nil_append]
      exact ih (some c) covered fun offset hoffset => hcovered (offset + 1) (Nat.succ_lt_succ hoffset)
    | zero =>
      rw [scan]
      split
      next literal hmatch =>
        rcases matchAt_eq_some hmatch with ⟨hmem, hprefix⟩
        rw [hmatch, Option.toList_some, List.singleton_append]
        congr 1
        -- The match covers what is behind its first character.
        apply ih
        intro offset hoffset second hsecond
        rw [← List.drop_succ_cons (a := c)]
        exact hp.not_prefix_drop hmem hsecond hprefix (Nat.succ_pos offset) (by omega)
      next hmatch =>
        rw [hmatch, Option.toList_none, List.nil_append]
        exact ih (some c) 0 (by simp)

theorem findAll_eq_everyMatch (hp : p.Separate) (text : Text) :
    p.findAll text = p.everyMatch none text :=
  scan_eq_everyMatch hp none 0 text (by simp)

theorem everyMatch_eq_flatMap (before : Option Char) (text : Text) :
    p.everyMatch before text = (List.range text.length).flatMap fun position =>
      (p.matchAt ((text.charBefore? position).or before) (text.drop position)).toList := by
  induction text generalizing before with
  | nil => rfl
  | cons c rest ih =>
    rw [everyMatch, ih, List.length_cons, List.range_succ_eq_map, List.flatMap_cons,
      List.flatMap_map]
    congr 1
    · -- One position further, the character in front is one of the rest or the first one.
      apply congrArg (List.flatMap · _)
      funext position
      have hbefore : (Text.charBefore? (c :: rest) (position + 1)).or before =
          (Text.charBefore? rest position).or (some c) :=
        getLast?_cons_or c (rest.take position) before
      rw [Nat.succ_eq_add_one, hbefore, List.drop_succ_cons]

/-- A scan finds the match at every position that has one. -/
theorem findAll_eq_flatMap (hp : p.Separate) (text : Text) :
    p.findAll text = (List.range text.length).flatMap fun position =>
      (p.matchAt (text.charBefore? position) (text.drop position)).toList := by
  rw [findAll_eq_everyMatch hp, everyMatch_eq_flatMap]
  simp only [Option.or_none]

/-- At most one literal stands at the start of a text. -/
theorem Separate.toList_find? (hp : p.Separate) (text : Text) :
    (p.literals.find? (·.isPrefixOf text)).toList = p.literals.filter (·.isPrefixOf text) := by
  apply toList_find?_eq_filter hp.nodup
  intro first hfirst second hsecond hfirstStands hsecondStands
  have hmeet := List.prefix_or_prefix_of_prefix (List.isPrefixOf_iff_prefix.1 hfirstStands)
    (List.isPrefixOf_iff_prefix.1 hsecondStands)
  have hpos : 0 < first.length := List.length_pos_iff.2 (hp.ne_nil first hfirst)
  exact (hp.apart first hfirst second hsecond 0 hpos hmeet).2

theorem Separate.pairwise_occurrences (hp : p.Separate) (text : Text) :
    (text.occurrences p.literals).Pairwise fun x y => x.1 < y.1 := by
  rw [Text.occurrences, List.pairwise_flatMap]
  constructor
  · intro position _
    have hone := hp.toList_find? (text.drop position)
    simp only [Text.standsAt, ← hone]
    cases p.literals.find? (·.isPrefixOf (text.drop position)) <;> simp
  · refine List.pairwise_lt_range.imp fun {i j} hij x hx y hy => ?_
    rcases List.mem_map.1 hx with ⟨_, _, rfl⟩
    rcases List.mem_map.1 hy with ⟨_, _, rfl⟩
    exact hij

theorem toList_matchAt (hp : p.Separate) (hanywhere : p.atBoundary = false) (before : Option Char)
    (text : Text) : (p.matchAt before text).toList = p.literals.filter (·.isPrefixOf text) := by
  rw [← hp.toList_find?]
  unfold matchAt
  cases p.literals.find? (·.isPrefixOf text) <;> simp [hanywhere]

/-- Without a condition on what surrounds them, the matches are all occurrences of the literals. -/
theorem findAll_eq_occurrences (hp : p.Separate) (hanywhere : p.atBoundary = false) (text : Text) :
    p.findAll text = (text.occurrences p.literals).map Prod.snd := by
  rw [findAll_eq_flatMap hp, Text.occurrences, List.map_flatMap]
  apply congrArg (List.flatMap · _)
  funext position
  rw [List.map_map]
  have hsnd : (Prod.snd ∘ fun literal : Text => (position, literal)) = id := rfl
  rw [hsnd, List.map_id, toList_matchAt hp hanywhere]
  rfl

/-- In front of a word character, a boundary is where no word character is before it. -/
theorem isBoundary_of_isWordChar {before after : Option Char}
    (hafter : after.any Text.isWordChar = true) :
    isBoundary before after = !before.any Text.isWordChar := by
  rw [isBoundary, hafter]
  cases before.any Text.isWordChar <;> rfl

theorem length_matchAt (hboundary : p.atBoundary = true)
    (hword : ∀ literal ∈ p.literals, literal.head?.any Text.isWordChar = true)
    (before : Option Char) (text : Text) :
    (p.matchAt before text).toList.length =
      if !before.any Text.isWordChar && p.literals.any (·.isPrefixOf text) then 1 else 0 := by
  unfold matchAt
  cases hfound : p.literals.find? (·.isPrefixOf text) with
  | none =>
    have hnone : p.literals.any (·.isPrefixOf text) = false := by
      rw [List.any_eq_false]
      exact List.find?_eq_none.1 hfound
    rw [hnone, Bool.and_false]
    rfl
  | some literal =>
    -- The literal opens with a word character, so that only what is in front counts.
    have hmem := List.mem_of_find?_eq_some hfound
    have hstands : literal.isPrefixOf text = true :=
      List.find?_some (p := fun literal : Text => literal.isPrefixOf text) hfound
    have hsome : p.literals.any (·.isPrefixOf text) = true := List.any_eq_true.2 ⟨_, hmem, hstands⟩
    have hafter : text.head?.any Text.isWordChar = true := by
      rcases List.isPrefixOf_iff_prefix.1 hstands with ⟨behind, rfl⟩
      have := hword literal hmem
      cases literal with
      | nil => cases this
      | cons c rest => exact this
    rw [hsome, Bool.and_true, hboundary, isBoundary_of_isWordChar hafter]
    cases before.any Text.isWordChar <;> rfl

/-- At boundaries, the matches are the occurrences with no word character in front. -/
theorem length_findAll_eq_countP (hp : p.Separate) (hboundary : p.atBoundary = true)
    (hword : ∀ literal ∈ p.literals, literal.head?.any Text.isWordChar = true) (text : Text) :
    (p.findAll text).length = (List.range text.length).countP fun position =>
      text.opensWord position && p.literals.any (text.standsAt · position) := by
  rw [findAll_eq_flatMap hp]
  apply length_flatMap_eq_countP
  intro position
  exact length_matchAt hboundary hword _ _

end Pattern

end SourceGrade
