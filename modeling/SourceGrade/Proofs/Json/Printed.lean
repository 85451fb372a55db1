import SourceGrade.Proofs.Json.Double
import SourceGrade.Proofs.Json.Grammar

/-!
# Printed values as documents

Whatever is printed is a document in JSON, and stands for the value that was printed
(`isDocument_pretty`).
-/

namespace SourceGrade

namespace Json

/-! ## What a value stands for -/

mutual

/-- What a printed value stands for: numbers are their digits, and what is no number is nothing. -/
def datum : Json → Datum
  | null => .null
  | bool value => .bool value
  | nat value => .number (Text.ofNat value)
  | double value =>
    match value.value with
    | .finite .. => .number (ofDouble value)
    | .nan | .infinite _ => .null
  | string value => .string value
  | array items => .array (itemData items)
  | object members => .object (memberData members)

def itemData : List Json → List Datum
  | [] => []
  | item :: items => item.datum :: itemData items

def memberData : List (Text × Json) → List (Text × Datum)
  | [] => []
  | (name, value) :: members => (name, value.datum) :: memberData members

end

theorem itemData_eq_map (items : List Json) : itemData items = items.map datum := by
  induction items with
  | nil => rfl
  | cons item items ih => rw [itemData, ih, List.map_cons]

theorem memberData_eq_map (members : List (Text × Json)) :
    memberData members = members.map fun (name, value) => (name, value.datum) := by
  induction members with
  | nil => rfl
  | cons member members ih => rw [memberData, ih, List.map_cons]

variable {d : Datum} {c : Char} {value text text' rest : Text} {n depth : Nat}

/-! ## Space -/

/-- Only the text behind the space in front matters. -/
theorem Spells.of_skipSpace (h : Spells d text rest) (hskip : skipSpace text' = skipSpace text) :
    Spells d text' rest := by
  cases h with
  | null h => exact .null (hskip.trans h)
  | true h => exact .true (hskip.trans h)
  | false h => exact .false (hskip.trans h)
  | number hnumeral h hrest => exact .number hnumeral (hskip.trans h) hrest
  | string hopen h => exact .string (hskip.trans hopen) h
  | emptyArray hopen h => exact .emptyArray (hskip.trans hopen) h
  | array hopen h => exact .array (hskip.trans hopen) h
  | emptyObject hopen h => exact .emptyObject (hskip.trans hopen) h
  | object hopen h => exact .object (hskip.trans hopen) h

theorem Spells.newline (h : Spells d text rest) (depth : Nat) :
    Spells d (newline depth ++ text) rest :=
  h.of_skipSpace (skipSpace_newline depth text)

theorem token_cons (hc : isSpace c = false) (rest : Text) : Token c (c :: rest) rest :=
  skipSpace_cons hc rest

theorem token_newline (hc : isSpace c = false) (depth : Nat) (rest : Text) :
    Token c (Json.newline depth ++ c :: rest) rest :=
  (skipSpace_newline depth _).trans (token_cons hc rest)

/-! ## Strings -/

theorem chars_escape (c : Char) (h : Chars value text rest) :
    Chars (c :: value) (escape c ++ text) rest := by
  have hescaped := escaped_escape c
  generalize escape c = printed at hescaped ⊢
  cases hescaped with
  | letter hl hu => exact .letter hl h
  | number hc =>
    -- Only control characters are printed by number, and no surrogate is one.
    have hhex := hex4_hexDigits hc []
    have hhigh : isHighSurrogate c.toNat = false := by
      simp only [isHighSurrogate, Bool.and_eq_false_iff, decide_eq_false_iff_not]
      omega
    have hlow : isLowSurrogate c.toNat = false := by
      simp only [isLowSurrogate, Bool.and_eq_false_iff, decide_eq_false_iff_not]
      omega
    have hunit := Chars.unit hhex hhigh hlow h
    rw [Char.ofNat_toNat] at hunit
    exact hunit
  | plain hquote hbackslash hc => exact .plain hquote hbackslash (Nat.not_lt.1 hc) h

theorem chars_flatMap_escape (value rest : Text) :
    Chars value (value.flatMap escape ++ '"' :: rest) rest := by
  induction value with
  | nil => exact .close rest
  | cons c value ih =>
    rw [List.flatMap_cons, List.append_assoc]
    exact chars_escape c ih

theorem quote_append (value rest : Text) :
    quote value ++ rest = '"' :: (value.flatMap escape ++ '"' :: rest) := by
  rw [quote, List.append_assoc, List.cons_append, List.singleton_append]

theorem spells_quote (value rest : Text) : Spells (.string value) (quote value ++ rest) rest := by
  rw [quote_append]
  exact .string (token_cons rfl _) (chars_flatMap_escape value rest)

/-! ## Numbers -/

theorem magnitude_whole (h : IsWhole text) : Magnitude text := by
  have hmagnitude := Magnitude.intro h (Or.inl rfl) (Or.inl rfl)
  rwa [List.append_nil, List.append_nil] at hmagnitude

theorem magnitude_fraction (whole fraction : Text) (hwhole : IsWhole whole)
    (hfraction : IsDigits fraction) : Magnitude (whole ++ '.' :: fraction) := by
  have hmagnitude := Magnitude.intro hwhole (Or.inr ⟨fraction, hfraction, rfl⟩) (Or.inl rfl)
  rwa [List.append_nil] at hmagnitude

theorem isDigits_ofNat (n : Nat) : IsDigits (Text.ofNat n) := ⟨isDigit_ofNat n, Text.ofNat_ne_nil n⟩

theorem isDigits_zeros (hn : 0 < n) : IsDigits (zeros n) := by
  refine ⟨isDigit_zeros n, ?_⟩
  rw [zeros, ne_eq, List.replicate_eq_nil_iff]
  omega

theorem numeral_ofNat (n : Nat) : Numeral (Text.ofNat n) :=
  .positive (magnitude_whole ⟨isDigit_ofNat n, Text.ofNat_ne_nil n, not_leadingZero n⟩)

/-- The plain notation of a positive number has digits on both sides of the point. -/
theorem magnitude_plain (hn : 0 < n) (exponent : Int) : Magnitude (plain (Text.ofNat n) exponent) := by
  unfold plain
  dsimp only
  split
  next =>
    exact magnitude_fraction _ ['0'] (isWhole_append hn (isDigit_zeros _)) (isDigits_zeros Nat.one_pos)
  next hexponent =>
  split
  next hpoint =>
    rw [List.append_assoc]
    refine magnitude_fraction _ (List.drop _ _) (isWhole_take hn (by omega)) ⟨?_, ?_⟩
    · exact fun c hc => isDigit_ofNat n c (List.mem_of_mem_drop hc)
    · rw [ne_eq, List.drop_eq_nil_iff]
      omega
  next hpoint =>
    rw [List.append_assoc]
    refine magnitude_fraction ['0'] (zeros _ ++ _) isWhole_zero ⟨?_, ?_⟩
    · exact List.forall_mem_append.2 ⟨isDigit_zeros _, isDigit_ofNat n⟩
    · exact List.append_ne_nil_of_right_ne_nil _ (Text.ofNat_ne_nil n)

theorem magnitude_scientific (hn : 0 < n) (leading : Int) :
    Magnitude (scientific (Text.ofNat n) leading) := by
  have hmark : ∃ mark sign digits, (mark = 'e' ∨ mark = 'E') ∧
      (sign = [] ∨ sign = ['+'] ∨ sign = ['-']) ∧ IsDigits digits ∧
        Json.mark leading = mark :: (sign ++ digits) := by
    unfold mark
    split
    · exact ⟨'e', ['-'], _, Or.inl rfl, Or.inr (Or.inr rfl), isDigits_ofNat _, rfl⟩
    · exact ⟨'e', ['+'], _, Or.inl rfl, Or.inr (Or.inl rfl), isDigits_ofNat _, rfl⟩
  rw [scientific_eq]
  refine .intro (isWhole_take hn Nat.one_pos) ?_ (Or.inr hmark)
  split
  next => exact Or.inl rfl
  next hne =>
    exact Or.inr ⟨_, ⟨fun c hc => isDigit_ofNat n c (List.mem_of_mem_drop hc), hne⟩, rfl⟩

theorem magnitude_decimal {decimal : Binary64.Decimal} (h : 0 < decimal.digits) :
    Magnitude (Json.decimal decimal) := by
  unfold Json.decimal
  dsimp only
  split
  next => exact magnitude_plain h _
  next => exact magnitude_scientific h _

theorem numeral_ofDouble {x : Binary64} {negative : Bool} {mantissa : Nat} {exponent : Int}
    (hx : x.value = .finite negative mantissa exponent) : Numeral (ofDouble x) := by
  obtain ⟨hmantissa, hleast, hmost⟩ := bounds_of_value hx
  have hmagnitude : Magnitude
      (if mantissa = 0 then "0.0" else decimal (Binary64.shortest mantissa exponent)) := by
    split
    next => exact magnitude_fraction ['0'] ['0'] isWhole_zero (isDigits_zeros Nat.one_pos)
    next hne =>
      exact magnitude_decimal
        (scalable_shortest (Nat.pos_of_ne_zero hne) hmantissa hleast hmost).digits_pos
  unfold ofDouble
  rw [hx]
  dsimp only
  cases negative with
  | false => exact .positive hmagnitude
  | true => exact .negative hmagnitude

theorem isSpace_of_kindOf? {kind : Kind} (h : kindOf? c = some kind) : isSpace c = false := by
  rw [Bool.eq_false_iff]
  intro hspace
  simp only [isSpace, Bool.or_eq_true, beq_iff_eq] at hspace
  rcases hspace with ((rfl | rfl) | rfl) | rfl <;> cases h

theorem Numeral.spells (h : Numeral text) (hrest : EndsNumeral rest) :
    Spells (.number text) (text ++ rest) rest := by
  obtain ⟨c, tail, hhead, hkind⟩ := h.exists_head
  refine .number h ?_ hrest
  rw [hhead]
  exact skipSpace_cons (isSpace_of_kindOf? hkind) _

theorem spells_ofDouble (x : Binary64) (hrest : EndsNumeral rest) :
    Spells (datum (.double x)) (ofDouble x ++ rest) rest := by
  rw [datum]
  cases hx : x.value with
  | finite negative mantissa exponent => exact (numeral_ofDouble hx).spells hrest
  | nan | infinite =>
    have hnull : ofDouble x = "null".toList := by
      rw [ofDouble, hx]
    rw [hnull]
    exact .null rfl

/-! ## Values -/

theorem endsNumeral_cons (hc : isNumeric c = false) (rest : Text) : EndsNumeral (c :: rest) := by
  intro d hd
  cases hd
  exact hc

theorem endsNumeral_newline (depth : Nat) (rest : Text) : EndsNumeral (newline depth ++ rest) :=
  endsNumeral_cons rfl _

theorem endsNumeral_moreItems (items : List Json) (depth depth' : Nat) (rest : Text) :
    EndsNumeral (moreItems depth items ++ (newline depth' ++ rest)) := by
  cases items with
  | nil => exact endsNumeral_newline depth' rest
  | cons item items => exact endsNumeral_cons rfl _

theorem endsNumeral_moreMembers (members : List (Text × Json)) (depth depth' : Nat) (rest : Text) :
    EndsNumeral (moreMembers depth members ++ (newline depth' ++ rest)) := by
  cases members with
  | nil => exact endsNumeral_newline depth' rest
  | cons member members => exact endsNumeral_cons rfl _

/-- A member on a line of its own, with any value that is spelled behind the colon. -/
theorem spellsMember_line (name : Text) (depth : Nat) (h : Spells d text rest) :
    SpellsMember (name, d) (newline depth ++ (quote name ++ ':' :: ' ' :: text)) rest := by
  have hquote : Token '"' (newline depth ++ (quote name ++ ':' :: ' ' :: text))
      (name.flatMap escape ++ '"' :: ':' :: ' ' :: text) := by
    rw [quote_append]
    exact token_newline rfl depth _
  have hspace : skipSpace (' ' :: text) = skipSpace text := List.dropWhile_cons_of_pos rfl
  exact .intro hquote (chars_flatMap_escape name _) (token_cons rfl _) (h.of_skipSpace hspace)

theorem prettyAt_array (depth : Nat) (item : Json) (items : List Json) (rest : Text) :
    prettyAt depth (.array (item :: items)) ++ rest =
      '[' :: (newline (depth + 1) ++ (prettyAt (depth + 1) item ++
        (moreItems (depth + 1) items ++ (newline depth ++ ']' :: rest)))) := by
  have hopen : "[".toList = ['['] := rfl
  have hclose : "]".toList = [']'] := rfl
  simp only [prettyAt, hopen, hclose, List.append_assoc, List.cons_append, List.nil_append]

theorem moreItems_cons (depth : Nat) (item : Json) (items : List Json) (rest : Text) :
    moreItems depth (item :: items) ++ rest =
      ',' :: (newline depth ++ (prettyAt depth item ++ (moreItems depth items ++ rest))) := by
  have hcomma : ",".toList = [','] := rfl
  simp only [moreItems, hcomma, List.append_assoc, List.cons_append, List.nil_append]

theorem prettyAt_object (depth : Nat) (name : Text) (value : Json) (members : List (Text × Json))
    (rest : Text) :
    prettyAt depth (.object ((name, value) :: members)) ++ rest =
      '\x7b' :: (newline (depth + 1) ++ (quote name ++ ':' :: ' ' :: (prettyAt (depth + 1) value ++
        (moreMembers (depth + 1) members ++ (newline depth ++ '\x7d' :: rest))))) := by
  have hopen : "\x7b".toList = ['\x7b'] := rfl
  have hclose : "\x7d".toList = ['\x7d'] := rfl
  have hcolon : ": ".toList = [':', ' '] := rfl
  simp only [prettyAt, hopen, hclose, hcolon, List.append_assoc, List.cons_append, List.nil_append]

theorem moreMembers_cons (depth : Nat) (name : Text) (value : Json) (members : List (Text × Json))
    (rest : Text) :
    moreMembers depth ((name, value) :: members) ++ rest =
      ',' :: (newline depth ++ (quote name ++ ':' :: ' ' :: (prettyAt depth value ++
        (moreMembers depth members ++ rest)))) := by
  have hcomma : ",".toList = [','] := rfl
  have hcolon : ": ".toList = [':', ' '] := rfl
  simp only [moreMembers, hcomma, hcolon, List.append_assoc, List.cons_append, List.nil_append]

mutual

/-- A printed value stands for itself, in front of anything that does not go on with a number. -/
theorem spells_prettyAt (json : Json) (depth : Nat) {rest : Text} (hrest : EndsNumeral rest) :
    Spells json.datum (prettyAt depth json ++ rest) rest := by
  cases json with
  | null => exact .null rfl
  | bool value =>
    cases value with
    | true => exact .true rfl
    | false => exact .false rfl
  | nat value => exact (numeral_ofNat value).spells hrest
  | double value => exact spells_ofDouble value hrest
  | string value => exact spells_quote value rest
  | array items =>
    cases items with
    | nil => exact .emptyArray (token_cons rfl _) (token_cons rfl _)
    | cons item items =>
      -- Behind an item comes a comma or a line feed, which no number goes on with.
      have hitem := spells_prettyAt item (depth + 1)
        (endsNumeral_moreItems items (depth + 1) depth (']' :: rest))
      rw [prettyAt_array]
      exact .array (token_cons rfl _)
        (spellsItems_moreItems items depth rest (hitem.newline (depth + 1)))
  | object members =>
    cases members with
    | nil => exact .emptyObject (token_cons rfl _) (token_cons rfl _)
    | cons member members =>
      obtain ⟨name, value⟩ := member
      have hvalue := spells_prettyAt value (depth + 1)
        (endsNumeral_moreMembers members (depth + 1) depth ('\x7d' :: rest))
      rw [prettyAt_object]
      exact .object (token_cons rfl _)
        (spellsMembers_moreMembers members depth rest (spellsMember_line name (depth + 1) hvalue))

theorem spellsItems_moreItems (items : List Json) (depth : Nat) (rest : Text) {item : Datum}
    {text : Text}
    (h : Spells item text (moreItems (depth + 1) items ++ (newline depth ++ ']' :: rest))) :
    SpellsItems (item :: itemData items) text rest := by
  cases items with
  | nil => exact .last h (token_newline rfl depth rest)
  | cons second items =>
    have hsecond := spells_prettyAt second (depth + 1)
      (endsNumeral_moreItems items (depth + 1) depth (']' :: rest))
    rw [moreItems_cons] at h
    exact .more h (token_cons rfl _)
      (spellsItems_moreItems items depth rest (hsecond.newline (depth + 1)))

theorem spellsMembers_moreMembers (members : List (Text × Json)) (depth : Nat) (rest : Text)
    {member : Text × Datum} {text : Text}
    (h : SpellsMember member text
      (moreMembers (depth + 1) members ++ (newline depth ++ '\x7d' :: rest))) :
    SpellsMembers (member :: memberData members) text rest := by
  cases members with
  | nil => exact .last h (token_newline rfl depth rest)
  | cons second members =>
    obtain ⟨name, value⟩ := second
    have hvalue := spells_prettyAt value (depth + 1)
      (endsNumeral_moreMembers members (depth + 1) depth ('\x7d' :: rest))
    rw [moreMembers_cons] at h
    exact .more h (token_cons rfl _)
      (spellsMembers_moreMembers members depth rest (spellsMember_line name (depth + 1) hvalue))

end

/-- A printed value is a document that stands for it. -/
theorem isDocument_pretty (json : Json) : IsDocument json.datum json.pretty := by
  have hspells := @spells_prettyAt json 0 [] nofun
  rw [List.append_nil] at hspells
  exact ⟨[], hspells, rfl⟩

end Json

end SourceGrade
