import SourceGrade.Proofs.Text.Size

/-!
# Cuts

A text is in exactly one way a row of lines with a break behind each one and a rest without breaks.
Its lines are those of the row, and the rest if there is one. Taken by the bytes at which they begin
and end, they are slices between whole characters (`lines_of_cuts`).
-/

namespace SourceGrade.Text

/-- A line and the break behind it. -/
structure Cut where
  line : Text
  mark : Text

/-- One line break in front of the text `behind`. A carriage return takes a line feed with it. -/
inductive IsMark (behind : Text) : Text → Prop
  | char {c : Char} (hbreak : isBreak c = true) (hcrlf : ¬ (c = '\r' ∧ behind.head? = some '\n')) :
    IsMark behind [c]
  | crlf : IsMark behind ['\r', '\n']

/-- A text is the lines of the cuts with their breaks, and the rest behind them. -/
inductive CutsInto : Text → List Cut → Text → Prop
  | rest {rest : Text} (hrest : ∀ c ∈ rest, isBreak c = false) : CutsInto rest [] rest
  | line {line mark behind rest : Text} {cuts : List Cut} (hline : ∀ c ∈ line, isBreak c = false)
    (hmark : IsMark behind mark) (hbehind : CutsInto behind cuts rest) :
    CutsInto (line ++ mark ++ behind) (⟨line, mark⟩ :: cuts) rest

/-- The cuts of a text and what is left behind them. The characters `read`, the last one first, of
an unfinished line stand in front of it. -/
def cutsFrom (read : Text) : Text → List Cut × Text
  | [] => ([], read.reverse)
  | '\r' :: '\n' :: rest =>
    (⟨read.reverse, ['\r', '\n']⟩ :: (cutsFrom [] rest).1, (cutsFrom [] rest).2)
  | c :: rest =>
    if isBreak c then (⟨read.reverse, [c]⟩ :: (cutsFrom [] rest).1, (cutsFrom [] rest).2)
    else cutsFrom (c :: read) rest

variable {text line mark behind rest before : Text} {cuts : List Cut}

theorem forall_mem_reverse (h : ∀ c ∈ text, isBreak c = false) :
    ∀ c ∈ text.reverse, isBreak c = false :=
  fun c hc => h c (List.mem_reverse.1 hc)

/-! ## One way to cut -/

theorem cutsFrom_nil (read : Text) : cutsFrom read [] = ([], read.reverse) := rfl

theorem cutsFrom_break {c : Char} (read : Text) (hbreak : isBreak c = true)
    (hcrlf : ¬ (c = '\r' ∧ rest.head? = some '\n')) :
    cutsFrom read (c :: rest) =
      (⟨read.reverse, [c]⟩ :: (cutsFrom [] rest).1, (cutsFrom [] rest).2) := by
  rw [cutsFrom.eq_def]
  split
  next hnil => cases hnil
  next _ hcons =>
    cases hcons
    exact absurd ⟨rfl, rfl⟩ hcrlf
  next _ hcons =>
    cases hcons
    rw [if_pos hbreak]

theorem cutsFrom_char {c : Char} (read rest : Text) (hchar : isBreak c = false) :
    cutsFrom read (c :: rest) = cutsFrom (c :: read) rest := by
  rw [cutsFrom.eq_def]
  split
  next hnil => cases hnil
  next _ hcons =>
    -- A carriage return would be a break.
    cases hcons
    cases hchar
  next _ hcons =>
    cases hcons
    rw [hchar, if_neg Bool.false_ne_true]

theorem cutsFrom_append (read behind : Text) (hline : ∀ c ∈ line, isBreak c = false) :
    cutsFrom read (line ++ behind) = cutsFrom (line.reverse ++ read) behind := by
  induction line generalizing read with
  | nil => rfl
  | cons c line ih =>
    obtain ⟨hc, hline⟩ := List.forall_mem_cons.1 hline
    rw [List.cons_append, cutsFrom_char _ _ hc, ih _ hline, List.reverse_cons, List.append_assoc,
      List.singleton_append]

theorem cutsFrom_mark (read : Text) (hmark : IsMark behind mark) :
    cutsFrom read (mark ++ behind) =
      (⟨read.reverse, mark⟩ :: (cutsFrom [] behind).1, (cutsFrom [] behind).2) := by
  cases hmark with
  | char hbreak hcrlf => exact cutsFrom_break read hbreak hcrlf
  | crlf => rfl

theorem CutsInto.cutsFrom_eq (h : CutsInto text cuts rest) : cutsFrom [] text = (cuts, rest) := by
  induction h with
  | @rest rest hrest =>
    have hend := cutsFrom_append [] [] hrest
    rwa [cutsFrom_nil, List.append_nil, List.append_nil, List.reverse_reverse] at hend
  | line hline hmark _ ih =>
    rw [List.append_assoc, cutsFrom_append _ _ hline, cutsFrom_mark _ hmark, ih, List.append_nil,
      List.reverse_reverse]

theorem cutsInto_cutsFrom {read : Text} (text : Text) (hread : ∀ c ∈ read, isBreak c = false) :
    CutsInto (read.reverse ++ text) (cutsFrom read text).1 (cutsFrom read text).2 := by
  fun_induction cutsFrom read text with
  | case1 read =>
    rw [List.append_nil]
    exact .rest (forall_mem_reverse hread)
  | case2 read rest ih =>
    have hcut := CutsInto.line (forall_mem_reverse hread) .crlf (ih (List.forall_mem_nil _))
    rwa [List.append_assoc] at hcut
  | case3 read c rest hcrlf hbreak ih =>
    have hcut := CutsInto.line (forall_mem_reverse hread) (.char hbreak (not_crlf hcrlf))
      (ih (List.forall_mem_nil _))
    rwa [List.append_assoc] at hcut
  | case4 read c rest _ hchar ih =>
    have hcut := ih (List.forall_mem_cons.2 ⟨Bool.eq_false_iff.2 hchar, hread⟩)
    rwa [List.reverse_cons, List.append_assoc, List.singleton_append] at hcut

theorem cutsInto_iff :
    CutsInto text cuts rest ↔ cutsFrom [] text = (cuts, rest) := by
  constructor
  · exact CutsInto.cutsFrom_eq
  · intro h
    have hcuts := cutsInto_cutsFrom text (List.forall_mem_nil _)
    rwa [h] at hcuts

/-- Nothing of a text is left out by its cuts. -/
theorem CutsInto.text_eq (h : CutsInto text cuts rest) :
    text = (cuts.flatMap fun cut => cut.line ++ cut.mark) ++ rest := by
  induction h with
  | rest => rfl
  | line _ _ _ ih =>
    rw [ih, List.flatMap_cons]
    exact (List.append_assoc _ _ _).symm

theorem linesFrom_eq (read text : Text) :
    linesFrom read text = (cutsFrom read text).1.map Cut.line ++
      if (cutsFrom read text).2 = [] then [] else [(cutsFrom read text).2] := by
  fun_induction cutsFrom read text with
  | case1 read =>
    cases read with
    | nil => rfl
    | cons c read =>
      have hne : (c :: read).reverse ≠ [] := List.reverse_ne_nil_iff.2 (List.cons_ne_nil c read)
      rw [if_neg hne]
      rfl
  | case2 read rest ih => rw [linesFrom_crlf, lines, ih, List.map_cons, List.cons_append]
  | case3 read c rest hcrlf hbreak ih =>
    rw [linesFrom_break read hbreak (not_crlf hcrlf), lines, ih, List.map_cons, List.cons_append]
  | case4 read c rest _ hchar ih => rw [linesFrom_char read rest (Bool.eq_false_iff.2 hchar), ih]

/-! ## Slices -/

/-- The number of bytes of a text. -/
def byteLength (text : Text) : Nat := (Utf8.encode text).length

/-- A text taken apart in front of a byte, which has to be the first one of a character or to be
behind all of them. -/
def splitBytes? : Nat → Text → Option (Text × Text)
  | 0, text => some ([], text)
  | _ + 1, [] => none
  | offset, c :: rest =>
    if c.utf8Size ≤ offset then (splitBytes? (offset - c.utf8Size) rest).map (Prod.map (c :: ·) id)
    else none

/-- The part of a text between two bytes. There is none if one of them is inside of a character. -/
def slice? (text : Text) (range : Nat × Nat) : Option Text :=
  if range.1 ≤ range.2 then do
    let (_, behind) ← splitBytes? range.1 text
    let (part, _) ← splitBytes? (range.2 - range.1) behind
    return part
  else none

/-- The first byte of every line and the one behind its last. The line that begins at `start` has
been read up to the byte `index`. -/
def rangesFrom (start index : Nat) : Text → List (Nat × Nat)
  | [] => if start < index then [(start, index)] else []
  | '\r' :: '\n' :: rest => (start, index) :: rangesFrom (index + 2) (index + 2) rest
  | c :: rest =>
    if isBreak c then
      (start, index) :: rangesFrom (index + c.utf8Size) (index + c.utf8Size) rest
    else rangesFrom start (index + c.utf8Size) rest

theorem rangesFrom_nil (start index : Nat) :
    rangesFrom start index [] = if start < index then [(start, index)] else [] := rfl

theorem rangesFrom_crlf (start index : Nat) (rest : Text) :
    rangesFrom start index ('\r' :: '\n' :: rest) =
      (start, index) :: rangesFrom (index + 2) (index + 2) rest := rfl

theorem rangesFrom_break {c : Char} (start index : Nat) (hbreak : isBreak c = true)
    (hcrlf : ¬ (c = '\r' ∧ rest.head? = some '\n')) :
    rangesFrom start index (c :: rest) =
      (start, index) :: rangesFrom (index + c.utf8Size) (index + c.utf8Size) rest := by
  rw [rangesFrom.eq_def]
  split
  next hnil => cases hnil
  next _ hcons =>
    cases hcons
    exact absurd ⟨rfl, rfl⟩ hcrlf
  next _ hcons =>
    cases hcons
    rw [if_pos hbreak]

theorem rangesFrom_char {c : Char} (start index : Nat) (rest : Text) (hchar : isBreak c = false) :
    rangesFrom start index (c :: rest) = rangesFrom start (index + c.utf8Size) rest := by
  rw [rangesFrom.eq_def]
  split
  next hnil => cases hnil
  next _ hcons =>
    cases hcons
    cases hchar
  next _ hcons =>
    cases hcons
    rw [hchar, if_neg Bool.false_ne_true]

theorem byteLength_cons (c : Char) (rest : Text) :
    byteLength (c :: rest) = c.utf8Size + byteLength rest := by
  rw [byteLength, Utf8.encode, List.flatMap_cons, List.length_append, String.length_utf8EncodeChar]
  rfl

theorem byteLength_append (text behind : Text) :
    byteLength (text ++ behind) = byteLength text + byteLength behind := by
  rw [byteLength, Utf8.encode, List.flatMap_append, List.length_append]
  rfl

theorem byteLength_singleton (c : Char) : byteLength [c] = c.utf8Size := byteLength_cons c []

theorem byteLength_pos_iff : 0 < byteLength text ↔ text ≠ [] := by
  cases text with
  | nil => exact iff_of_false (Nat.lt_irrefl 0) (fun h => h rfl)
  | cons c rest =>
    rw [byteLength_cons]
    exact iff_of_true (Nat.add_pos_left c.utf8Size_pos _) (List.cons_ne_nil c rest)

theorem splitBytes?_append (text behind : Text) :
    splitBytes? (byteLength text) (text ++ behind) = some (text, behind) := by
  induction text with
  | nil => rw [show byteLength [] = 0 from rfl, splitBytes?, List.nil_append]
  | cons c rest ih =>
    have hpos := c.utf8Size_pos
    rw [byteLength_cons, List.cons_append, splitBytes?, if_pos (Nat.le_add_right _ _),
      Nat.add_sub_cancel_left, ih]
    · rfl
    · omega

theorem splitBytes?_eq_some_iff {offset : Nat} :
    splitBytes? offset text = some (line, behind) ↔
      text = line ++ behind ∧ byteLength line = offset := by
  constructor
  · intro h
    fun_induction splitBytes? offset text generalizing line with
    | case1 text =>
      cases h
      exact ⟨rfl, rfl⟩
    | case2 => cases h
    | case3 offset c rest _ hle ih =>
      obtain ⟨split, hsplit, hcons⟩ := Option.map_eq_some_iff.1 h
      cases hcons
      obtain ⟨hrest, hlength⟩ := ih hsplit
      refine ⟨congrArg (c :: ·) hrest, ?_⟩
      show byteLength (c :: split.1) = offset
      rw [byteLength_cons, hlength]
      omega
    | case4 => cases h
  · rintro ⟨rfl, rfl⟩
    exact splitBytes?_append line behind

/-- A slice is what stands between two characters. -/
theorem slice?_eq_some_iff {start stop : Nat} :
    slice? text (start, stop) = some line ↔ ∃ before behind, text = before ++ (line ++ behind) ∧
      byteLength before = start ∧ start + byteLength line = stop := by
  constructor
  · intro h
    rw [slice?] at h
    split at h
    next hle =>
      obtain ⟨⟨before, tail⟩, hbefore, h⟩ := Option.bind_eq_some_iff.1 h
      obtain ⟨⟨part, behind⟩, hpart, h⟩ := Option.bind_eq_some_iff.1 h
      cases h
      rw [splitBytes?_eq_some_iff] at hbefore hpart
      refine ⟨before, behind, ?_, hbefore.2, ?_⟩
      · rw [hbefore.1, hpart.1]
      · rw [hpart.2]
        exact Nat.add_sub_cancel' hle
    next => cases h
  · rintro ⟨before, behind, rfl, rfl, rfl⟩
    rw [slice?, if_pos (Nat.le_add_right _ _), splitBytes?_append, Nat.add_sub_cancel_left]
    show ((splitBytes? (byteLength line) (line ++ behind)).bind fun split => some split.1) = some line
    rw [splitBytes?_append]
    rfl

theorem slice?_append (before line behind : Text) :
    slice? (before ++ (line ++ behind)) (byteLength before, byteLength before + byteLength line) =
      some line :=
  slice?_eq_some_iff.2 ⟨before, behind, rfl, rfl, rfl⟩

/-- Behind the bytes of `before` and of an unfinished line the ranges of further lines are found. -/
theorem slice?_rangesFrom (before read text : Text) :
    (rangesFrom (byteLength before) (byteLength before + byteLength read.reverse) text).map
        (before ++ (read.reverse ++ text)).slice? =
      (linesFrom read text).map some := by
  -- With every break the bytes in front grow by its line and by itself.
  fun_induction linesFrom read text generalizing before with
  | case1 read hempty =>
    rw [List.isEmpty_iff.1 hempty]
    have hend : byteLength before + byteLength [].reverse = byteLength before := rfl
    rw [hend, rangesFrom_nil, if_neg (Nat.lt_irrefl _)]
    rfl
  | case2 read hempty =>
    have hne : read.reverse ≠ [] := fun h => hempty (List.isEmpty_iff.2 (List.reverse_eq_nil_iff.1 h))
    rw [rangesFrom_nil, if_pos (Nat.lt_add_of_pos_right (byteLength_pos_iff.2 hne)), List.map_cons,
      slice?_append]
    rfl
  | case3 read rest ih =>
    -- Both characters of the break are of one byte.
    have hrest := ih (before ++ (read.reverse ++ ['\r', '\n']))
    rw [List.append_assoc before, List.append_assoc read.reverse, byteLength_append,
      byteLength_append, ← Nat.add_assoc] at hrest
    rw [rangesFrom_crlf, List.map_cons, slice?_append, List.map_cons]
    exact congrArg (some read.reverse :: ·) hrest
  | case4 read c rest hcrlf hbreak ih =>
    have hrest := ih (before ++ (read.reverse ++ [c]))
    rw [List.append_assoc before, List.append_assoc read.reverse, byteLength_append,
      byteLength_append, byteLength_singleton, ← Nat.add_assoc] at hrest
    rw [rangesFrom_break _ _ hbreak (not_crlf hcrlf), List.map_cons, slice?_append, List.map_cons]
    exact congrArg (some read.reverse :: ·) hrest
  | case5 read c rest hcrlf hchar ih =>
    have hrest := ih before
    rw [List.reverse_cons, byteLength_append, List.append_assoc, List.singleton_append,
      byteLength_singleton, ← Nat.add_assoc] at hrest
    rw [rangesFrom_char _ _ _ (Bool.eq_false_iff.2 hchar)]
    exact hrest

/-! ## Lines -/

/-- There is one way to cut a text, its lines are what has been cut, and the rest only if it is not
empty, and each one is found between the bytes of its range. -/
theorem lines_of_cuts (text : Text) :
    ∃ cuts rest, (∀ cuts' rest', CutsInto text cuts' rest' ↔ cuts' = cuts ∧ rest' = rest) ∧
      text = (cuts.flatMap fun cut => cut.line ++ cut.mark) ++ rest ∧
      text.lines = cuts.map Cut.line ++ (if rest = [] then [] else [rest]) ∧
      (text.lines.length = cuts.length ∨ text.lines.length = cuts.length + 1) ∧
      (rangesFrom 0 0 text).map text.slice? = text.lines.map some := by
  have hlines : text.lines = _ := linesFrom_eq [] text
  refine ⟨(cutsFrom [] text).1, (cutsFrom [] text).2, fun cuts rest => ?_, ?_, hlines, ?_, ?_⟩
  · rw [cutsInto_iff, Prod.ext_iff]
    exact and_congr eq_comm eq_comm
  · exact (cutsInto_iff.2 rfl).text_eq
  · rw [hlines, List.length_append, List.length_map]
    split
    · exact .inl rfl
    · exact .inr rfl
  · exact slice?_rangesFrom [] [] text

/-- A carriage return with the line feed behind it is one break, and each one alone is one too. -/
example : cutsFrom [] "a\r\nb\r\r\n\u2028\n\rc".toList =
    ([⟨['a'], ['\r', '\n']⟩, ⟨['b'], ['\r']⟩, ⟨[], ['\r', '\n']⟩, ⟨[], ['\u2028']⟩, ⟨[], ['\n']⟩,
      ⟨[], ['\r']⟩], ['c']) := by
  rfl

end SourceGrade.Text
