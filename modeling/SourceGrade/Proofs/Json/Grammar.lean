import SourceGrade.Proofs.Json.Number

/-!
# The grammar of JSON

What a text in JSON stands for, by rules that take a value from the front of the text and leave the rest.
A text stands for one value at most (`IsDocument.unique`).
-/

namespace SourceGrade.Json

/-- What a text stands for. A number is kept as it is written, and the members of an object in their
order. -/
inductive Datum where
  | null
  | bool (value : Bool)
  | number (numeral : Text)
  | string (value : Text)
  | array (items : List Datum)
  | object (members : List (Text × Datum))

/-! ## Rules -/

structure IsDigits (digits : Text) : Prop where
  isDigit : ∀ c ∈ digits, c.isDigit = true
  ne_nil : digits ≠ []

/-- Digits, a fraction and an exponent, of which the last two are optional. -/
inductive Magnitude : Text → Prop where
  | intro {whole fraction exponent : Text} (hwhole : IsWhole whole)
      (hfraction : fraction = [] ∨ ∃ digits, IsDigits digits ∧ fraction = '.' :: digits)
      (hexponent : exponent = [] ∨ ∃ mark sign digits, (mark = 'e' ∨ mark = 'E') ∧
        (sign = [] ∨ sign = ['+'] ∨ sign = ['-']) ∧ IsDigits digits ∧
          exponent = mark :: (sign ++ digits)) :
    Magnitude (whole ++ fraction ++ exponent)

inductive Numeral : Text → Prop where
  | positive {text : Text} (h : Magnitude text) : Numeral text
  | negative {text : Text} (h : Magnitude text) : Numeral ('-' :: text)

/-- The characters of numbers. -/
def isNumeric (c : Char) : Bool := c.isDigit || ['-', '+', '.', 'e', 'E'].contains c

/-- A number goes on as long as there are characters of numbers. -/
def EndsNumeral (rest : Text) : Prop := ∀ c, rest.head? = some c → isNumeric c = false

/-- The characters of a string up to its closing quote, as they are or escaped. A surrogate is one half
of a pair. -/
inductive Chars : Text → Text → Text → Prop where
  | close (rest : Text) : Chars [] ('"' :: rest) rest
  | plain {c : Char} {value text rest : Text} (hquote : c ≠ '"') (hbackslash : c ≠ '\\')
      (hcontrol : 0x20 ≤ c.toNat) (h : Chars value text rest) : Chars (c :: value) (c :: text) rest
  | letter {l c : Char} {value text rest : Text} (hl : unescape? l = some c)
      (h : Chars value text rest) : Chars (c :: value) ('\\' :: l :: text) rest
  | unit {a b c d : Char} {n : Nat} {value text rest : Text} (hn : hex4 [a, b, c, d] = .ok n)
      (hhigh : isHighSurrogate n = false) (hlow : isLowSurrogate n = false)
      (h : Chars value text rest) :
    Chars (Char.ofNat n :: value) ('\\' :: 'u' :: a :: b :: c :: d :: text) rest
  | pair {a b c d a' b' c' d' : Char} {high low : Nat} {value text rest : Text}
      (hhigh : hex4 [a, b, c, d] = .ok high) (hlow : hex4 [a', b', c', d'] = .ok low)
      (hisHigh : isHighSurrogate high = true) (hisLow : isLowSurrogate low = true)
      (h : Chars value text rest) :
    Chars (Char.ofNat ((high - 0xD800) * 0x400 + (low - 0xDC00) + 0x10000) :: value)
      ('\\' :: 'u' :: a :: b :: c :: d :: '\\' :: 'u' :: a' :: b' :: c' :: d' :: text) rest

/-- A character that stands for itself, with any space in front of it. -/
def Token (c : Char) (text rest : Text) : Prop := skipSpace text = c :: rest

mutual

/-- The text starts with the value, with any space in front of it, and goes on with the rest. -/
inductive Spells : Datum → Text → Text → Prop where
  | null {text rest : Text} (h : skipSpace text = "null".toList ++ rest) : Spells .null text rest
  | true {text rest : Text} (h : skipSpace text = "true".toList ++ rest) :
    Spells (.bool true) text rest
  | false {text rest : Text} (h : skipSpace text = "false".toList ++ rest) :
    Spells (.bool false) text rest
  | number {numeral text rest : Text} (hnumeral : Numeral numeral)
      (h : skipSpace text = numeral ++ rest) (hrest : EndsNumeral rest) :
    Spells (.number numeral) text rest
  | string {value text behind rest : Text} (hopen : Token '"' text behind)
      (h : Chars value behind rest) : Spells (.string value) text rest
  | emptyArray {text behind rest : Text} (hopen : Token '[' text behind)
      (h : Token ']' behind rest) : Spells (.array []) text rest
  | array {items : List Datum} {text behind rest : Text} (hopen : Token '[' text behind)
      (h : SpellsItems items behind rest) : Spells (.array items) text rest
  | emptyObject {text behind rest : Text} (hopen : Token '\x7b' text behind)
      (h : Token '\x7d' behind rest) : Spells (.object []) text rest
  | object {members : List (Text × Datum)} {text behind rest : Text}
      (hopen : Token '\x7b' text behind) (h : SpellsMembers members behind rest) :
    Spells (.object members) text rest

/-- The items of an array, one at least, up to the closing bracket. -/
inductive SpellsItems : List Datum → Text → Text → Prop where
  | last {item : Datum} {text behind rest : Text} (h : Spells item text behind)
      (hclose : Token ']' behind rest) : SpellsItems [item] text rest
  | more {item : Datum} {items : List Datum} {text behind next rest : Text}
      (h : Spells item text behind) (hcomma : Token ',' behind next)
      (hitems : SpellsItems items next rest) : SpellsItems (item :: items) text rest

/-- The members of an object, one at least, up to the closing bracket. -/
inductive SpellsMembers : List (Text × Datum) → Text → Text → Prop where
  | last {member : Text × Datum} {text behind rest : Text} (h : SpellsMember member text behind)
      (hclose : Token '\x7d' behind rest) : SpellsMembers [member] text rest
  | more {member : Text × Datum} {members : List (Text × Datum)} {text behind next rest : Text}
      (h : SpellsMember member text behind) (hcomma : Token ',' behind next)
      (hmembers : SpellsMembers members next rest) : SpellsMembers (member :: members) text rest

/-- A name, a colon and a value. -/
inductive SpellsMember : Text × Datum → Text → Text → Prop where
  | intro {name : Text} {value : Datum} {text quoted named colon rest : Text}
      (hopen : Token '"' text quoted) (hname : Chars name quoted named)
      (hcolon : Token ':' named colon) (h : Spells value colon rest) :
    SpellsMember (name, value) text rest

end

/-- The whole text is one value, up to space. -/
def IsDocument (datum : Datum) (text : Text) : Prop :=
  ∃ rest, Spells datum text rest ∧ skipSpace rest = []

variable {d d' : Datum} {text rest rest' : Text}

/-! ## First characters -/

inductive Kind where
  | null
  | true
  | false
  | number
  | string
  | array
  | object

def Datum.kind : Datum → Kind
  | null => .null
  | bool true => .true
  | bool false => .false
  | number _ => .number
  | string _ => .string
  | array _ => .array
  | object _ => .object

/-- The kind of value that a first character announces. -/
def kindOf? (c : Char) : Option Kind :=
  match c with
  | 'n' => some .null
  | 't' => some .true
  | 'f' => some .false
  | '"' => some .string
  | '[' => some .array
  | '\x7b' => some .object
  | _ => if c = '-' ∨ c.isDigit then some .number else none

theorem kindOf?_of_isDigit {c : Char} (hc : c.isDigit = true) : kindOf? c = some .number := by
  unfold kindOf?
  split
  case h_7 => rw [if_pos (Or.inr hc)]
  all_goals cases hc

/-- A number starts with its sign or a digit. -/
theorem Numeral.exists_head {numeral : Text} (h : Numeral numeral) :
    ∃ c tail, numeral = c :: tail ∧ kindOf? c = some .number := by
  cases h with
  | positive h =>
    cases h with
    | @intro whole fraction exponent hwhole =>
      obtain ⟨first, others, rfl⟩ := List.exists_cons_of_ne_nil hwhole.ne_nil
      exact ⟨first, _, rfl, kindOf?_of_isDigit (hwhole.isDigit first List.mem_cons_self)⟩
  | negative h => exact ⟨'-', _, rfl, rfl⟩

theorem Spells.exists_head (h : Spells d text rest) :
    ∃ c tail, skipSpace text = c :: tail ∧ kindOf? c = some d.kind := by
  cases h with
  | null h | true h | false h => exact ⟨_, _, h, rfl⟩
  | number hnumeral h =>
    obtain ⟨c, tail, hhead, hkind⟩ := hnumeral.exists_head
    rw [h, hhead]
    exact ⟨c, _, rfl, hkind⟩
  | string hopen | emptyArray hopen | array hopen | emptyObject hopen | object hopen =>
    exact ⟨_, _, hopen, rfl⟩

theorem Spells.kind_eq (h : Spells d text rest) (h' : Spells d' text rest') : d.kind = d'.kind := by
  obtain ⟨c, tail, htext, hkind⟩ := h.exists_head
  obtain ⟨c', tail', htext', hkind'⟩ := h'.exists_head
  cases htext.symm.trans htext'
  exact Option.some.inj (hkind.symm.trans hkind')

/-- Where there is an item, the brackets are not closed. -/
theorem SpellsItems.not_token {items : List Datum} (h : SpellsItems items text rest) :
    ¬ Token ']' text rest' := by
  intro hclose
  have hhead {d : Datum} {behind : Text} (h : Spells d text behind) : False := by
    obtain ⟨c, tail, htext, hkind⟩ := h.exists_head
    cases htext.symm.trans hclose
    cases hkind
  cases h with
  | last h | more h => exact hhead h

theorem SpellsMembers.not_token {members : List (Text × Datum)}
    (h : SpellsMembers members text rest) : ¬ Token '\x7d' text rest' := by
  intro hclose
  have hhead {member : Text × Datum} {behind : Text} (h : SpellsMember member text behind) :
      False := by
    cases h with
    | intro hopen => cases hopen.symm.trans hclose
  cases h with
  | last h | more h => exact hhead h

/-! ## One reading -/

theorem IsDigits.isNumeric {digits : Text} (h : IsDigits digits) : ∀ c ∈ digits, isNumeric c = true := by
  intro c hc
  rw [Json.isNumeric, h.isDigit c hc, Bool.true_or]

theorem Magnitude.isNumeric {magnitude : Text} (h : Magnitude magnitude) :
    ∀ c ∈ magnitude, isNumeric c = true := by
  cases h with
  | intro hwhole hfraction hexponent =>
    rw [List.forall_mem_append, List.forall_mem_append]
    refine ⟨⟨?_, ?_⟩, ?_⟩
    · exact IsDigits.isNumeric ⟨hwhole.isDigit, hwhole.ne_nil⟩
    · rcases hfraction with rfl | ⟨digits, hdigits, rfl⟩
      · exact List.forall_mem_nil _
      · exact List.forall_mem_cons.2 ⟨rfl, hdigits.isNumeric⟩
    · rcases hexponent with rfl | ⟨mark, sign, digits, hmark, hsign, hdigits, rfl⟩
      · exact List.forall_mem_nil _
      · refine List.forall_mem_cons.2 ⟨?_, List.forall_mem_append.2 ⟨?_, hdigits.isNumeric⟩⟩
        · rcases hmark with rfl | rfl <;> rfl
        · rcases hsign with rfl | rfl | rfl
          · exact List.forall_mem_nil _
          · exact List.forall_mem_singleton.2 rfl
          · exact List.forall_mem_singleton.2 rfl

theorem Numeral.isNumeric {numeral : Text} (h : Numeral numeral) :
    ∀ c ∈ numeral, isNumeric c = true := by
  cases h with
  | positive h => exact h.isNumeric
  | negative h => exact List.forall_mem_cons.2 ⟨rfl, h.isNumeric⟩

theorem takeWhile_isNumeric {numeral : Text} (hnumeral : ∀ c ∈ numeral, isNumeric c = true)
    (hrest : EndsNumeral rest) : (numeral ++ rest).takeWhile isNumeric = numeral := by
  rw [List.takeWhile_append_of_pos hnumeral]
  cases rest with
  | nil => exact List.append_nil numeral
  | cons c rest =>
    rw [List.takeWhile_cons_of_neg (by rw [hrest c rfl]; exact Bool.false_ne_true), List.append_nil]

theorem Chars.unique {value value' : Text} (h : Chars value text rest)
    (h' : Chars value' text rest') : value = value' ∧ rest = rest' := by
  induction h generalizing value' with
  | close rest =>
    cases h' with
    | close => exact ⟨rfl, rfl⟩
    | plain hquote => exact absurd rfl hquote
  | plain hquote hbackslash hcontrol h ih =>
    -- The first characters say which rule it is; the number behind `\u` tells a unit from a pair.
    cases h' with
    | close => exact absurd rfl hquote
    | plain _ _ _ h' =>
      obtain ⟨rfl, hrest⟩ := ih h'
      exact ⟨rfl, hrest⟩
    | letter | unit | pair => exact absurd rfl hbackslash
  | letter hl h ih =>
    cases h' with
    | plain _ hbackslash => exact absurd rfl hbackslash
    | letter hl' h' =>
      cases hl.symm.trans hl'
      obtain ⟨rfl, hrest⟩ := ih h'
      exact ⟨rfl, hrest⟩
    | unit | pair => cases hl
  | unit hn hhigh hlow h ih =>
    cases h' with
    | plain _ hbackslash => exact absurd rfl hbackslash
    | letter hl' => cases hl'
    | unit hn' _ _ h' =>
      cases hn.symm.trans hn'
      obtain ⟨rfl, hrest⟩ := ih h'
      exact ⟨rfl, hrest⟩
    | pair hhigh' _ hisHigh =>
      cases hn.symm.trans hhigh'
      rw [hisHigh] at hhigh
      cases hhigh
  | pair hhigh hlow hisHigh hisLow h ih =>
    cases h' with
    | plain _ hbackslash => exact absurd rfl hbackslash
    | letter hl' => cases hl'
    | unit hn' hhigh' =>
      cases hn'.symm.trans hhigh
      rw [hisHigh] at hhigh'
      cases hhigh'
    | pair hhigh' hlow' _ _ h' =>
      cases hhigh.symm.trans hhigh'
      cases hlow.symm.trans hlow'
      obtain ⟨rfl, hrest⟩ := ih h'
      exact ⟨rfl, hrest⟩

mutual

theorem Spells.unique {d d' : Datum} {text rest rest' : Text} (h : Spells d text rest)
    (h' : Spells d' text rest') : d = d' ∧ rest = rest' := by
  -- Both readings are of one kind, so that only the rules of that kind are left.
  have hkind := h.kind_eq h'
  cases h with
  | null h =>
    cases h' with
    | null h' => exact ⟨rfl, List.append_cancel_left (h.symm.trans h')⟩
    | _ => cases hkind
  | true h =>
    cases h' with
    | true h' => exact ⟨rfl, List.append_cancel_left (h.symm.trans h')⟩
    | _ => cases hkind
  | false h =>
    cases h' with
    | false h' => exact ⟨rfl, List.append_cancel_left (h.symm.trans h')⟩
    | _ => cases hkind
  | number hnumeral h hrest =>
    cases h' with
    | number hnumeral' h' hrest' =>
      have heq := h.symm.trans h'
      -- Neither numeral can be the start of the other one: both go on as far as they can.
      have htaken := congrArg (List.takeWhile isNumeric) heq
      rw [takeWhile_isNumeric hnumeral.isNumeric hrest,
        takeWhile_isNumeric hnumeral'.isNumeric hrest'] at htaken
      rw [htaken] at heq ⊢
      exact ⟨rfl, List.append_cancel_left heq⟩
    | _ => cases hkind
  | string hopen h =>
    cases h' with
    | string hopen' h' =>
      cases hopen.symm.trans hopen'
      obtain ⟨rfl, hrest⟩ := h.unique h'
      exact ⟨rfl, hrest⟩
    | _ => cases hkind
  | emptyArray hopen h =>
    cases h' with
    | emptyArray hopen' h' =>
      cases hopen.symm.trans hopen'
      cases h.symm.trans h'
      exact ⟨rfl, rfl⟩
    | array hopen' h' =>
      cases hopen.symm.trans hopen'
      exact absurd h h'.not_token
    | _ => cases hkind
  | array hopen h =>
    cases h' with
    | emptyArray hopen' h' =>
      cases hopen.symm.trans hopen'
      exact absurd h' h.not_token
    | array hopen' h' =>
      cases hopen.symm.trans hopen'
      obtain ⟨rfl, hrest⟩ := SpellsItems.unique h h'
      exact ⟨rfl, hrest⟩
    | _ => cases hkind
  | emptyObject hopen h =>
    cases h' with
    | emptyObject hopen' h' =>
      cases hopen.symm.trans hopen'
      cases h.symm.trans h'
      exact ⟨rfl, rfl⟩
    | object hopen' h' =>
      cases hopen.symm.trans hopen'
      exact absurd h h'.not_token
    | _ => cases hkind
  | object hopen h =>
    cases h' with
    | emptyObject hopen' h' =>
      cases hopen.symm.trans hopen'
      exact absurd h' h.not_token
    | object hopen' h' =>
      cases hopen.symm.trans hopen'
      obtain ⟨rfl, hrest⟩ := SpellsMembers.unique h h'
      exact ⟨rfl, hrest⟩
    | _ => cases hkind
termination_by sizeOf d
decreasing_by
  all_goals
    subst_vars
    simp only [Datum.array.sizeOf_spec, Datum.object.sizeOf_spec]
    omega

theorem SpellsItems.unique {items items' : List Datum} {text rest rest' : Text}
    (h : SpellsItems items text rest) (h' : SpellsItems items' text rest') :
    items = items' ∧ rest = rest' := by
  cases h with
  | last h hclose =>
    cases h' with
    | last h' hclose' =>
      obtain ⟨rfl, rfl⟩ := Spells.unique h h'
      cases hclose.symm.trans hclose'
      exact ⟨rfl, rfl⟩
    | more h' hcomma' =>
      obtain ⟨rfl, rfl⟩ := Spells.unique h h'
      cases hclose.symm.trans hcomma'
  | more h hcomma hitems =>
    cases h' with
    | last h' hclose' =>
      obtain ⟨rfl, rfl⟩ := Spells.unique h h'
      cases hcomma.symm.trans hclose'
    | more h' hcomma' hitems' =>
      obtain ⟨rfl, rfl⟩ := Spells.unique h h'
      cases hcomma.symm.trans hcomma'
      obtain ⟨rfl, hrest⟩ := SpellsItems.unique hitems hitems'
      exact ⟨rfl, hrest⟩
termination_by sizeOf items
decreasing_by
  all_goals
    subst_vars
    simp only [List.cons.sizeOf_spec]
    omega

theorem SpellsMembers.unique {members members' : List (Text × Datum)} {text rest rest' : Text}
    (h : SpellsMembers members text rest) (h' : SpellsMembers members' text rest') :
    members = members' ∧ rest = rest' := by
  cases h with
  | last h hclose =>
    cases h' with
    | last h' hclose' =>
      obtain ⟨rfl, rfl⟩ := SpellsMember.unique h h'
      cases hclose.symm.trans hclose'
      exact ⟨rfl, rfl⟩
    | more h' hcomma' =>
      obtain ⟨rfl, rfl⟩ := SpellsMember.unique h h'
      cases hclose.symm.trans hcomma'
  | more h hcomma hmembers =>
    cases h' with
    | last h' hclose' =>
      obtain ⟨rfl, rfl⟩ := SpellsMember.unique h h'
      cases hcomma.symm.trans hclose'
    | more h' hcomma' hmembers' =>
      obtain ⟨rfl, rfl⟩ := SpellsMember.unique h h'
      cases hcomma.symm.trans hcomma'
      obtain ⟨rfl, hrest⟩ := SpellsMembers.unique hmembers hmembers'
      exact ⟨rfl, hrest⟩
termination_by sizeOf members
decreasing_by
  all_goals
    subst_vars
    simp only [List.cons.sizeOf_spec]
    omega

theorem SpellsMember.unique {member member' : Text × Datum} {text rest rest' : Text}
    (h : SpellsMember member text rest) (h' : SpellsMember member' text rest') :
    member = member' ∧ rest = rest' := by
  cases h with
  | intro hopen hname hcolon h =>
    cases h' with
    | intro hopen' hname' hcolon' h' =>
      cases hopen.symm.trans hopen'
      obtain ⟨rfl, rfl⟩ := hname.unique hname'
      cases hcolon.symm.trans hcolon'
      obtain ⟨rfl, hrest⟩ := Spells.unique h h'
      exact ⟨rfl, hrest⟩
termination_by sizeOf member
decreasing_by
  all_goals
    subst_vars
    simp only [Prod.mk.sizeOf_spec]
    omega

end

/-- A text stands for one value at most. -/
theorem IsDocument.unique (h : IsDocument d text) (h' : IsDocument d' text) : d = d' := by
  obtain ⟨rest, hspells, -⟩ := h
  obtain ⟨rest', hspells', -⟩ := h'
  exact (hspells.unique hspells').1

end SourceGrade.Json
