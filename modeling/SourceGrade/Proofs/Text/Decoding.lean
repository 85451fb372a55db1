import SourceGrade.Proofs.Text.Occurrence
import SourceGrade.Proofs.Text.Utf8

/-!
# Bytes read permissively

The permissive reading takes bytes below 128 one by one for the characters of their numbers, and no
other bytes for such a character (`reads_decode`). Literals of such characters are therefore found in
the bytes where they are found in the text.
-/

namespace SourceGrade.Utf8

/-- A text that the bytes can be read as: no byte of an ASCII character is lost or made up. -/
inductive Reads : Bytes → Text → Prop
  | nil : Reads [] []
  | ascii {c : Char} {bytes : Bytes} {text : Text} (hc : c.toNat < 0x80) (h : Reads bytes text) :
    Reads (.ofNat c.toNat :: bytes) (c :: text)
  | other {c : Char} {part bytes : Bytes} {text : Text} (hc : 0x80 ≤ c.toNat) (hne : part ≠ [])
    (hpart : ∀ b ∈ part, 0x80 ≤ b.toNat) (h : Reads bytes text) : Reads (part ++ bytes) (c :: text)

def IsAscii (text : Text) : Prop := ∀ c ∈ text, c.toNat < 0x80

instance (text : Text) : Decidable (IsAscii text) := List.decidableBAll _ text

variable {bits missing low high : Nat} {a b : UInt8} {c : Char} {part rest bytes : Bytes}
  {text literal : Text} {literals : List Text}

/-! ## The text of the decoder -/

/-- Inside of a character the decoder comes to its end, or it breaks off behind some of its bytes and
begins anew. -/
theorem completes_or_itemsFrom_eq (hmissing : 0 < missing) (hlow : 0x80 ≤ low) (bytes : Bytes) :
    (∃ b part rest, bytes = b :: part ++ rest ∧ part.length + 1 = missing ∧
      Completes low high b part) ∨
    ∃ part rest, bytes = part ++ rest ∧ (∀ b ∈ part, 0x80 ≤ b.toNat) ∧
      itemsFrom (.inside bits missing low high) [] bytes = none :: itemsFrom .start [] rest := by
  induction bytes generalizing bits missing low high with
  | nil => exact .inr ⟨[], [], rfl, List.forall_mem_nil _, rfl⟩
  | cons b bytes ih =>
    by_cases hb : low ≤ b.toNat ∧ b.toNat ≤ high
    · by_cases hone : missing ≤ 1
      · refine .inl ⟨b, [], bytes, rfl, ?_, hb.1, hb.2, List.forall_mem_nil _⟩
        rw [List.length_nil]
        omega
      have hgoesOn := @ih (push bits b) (missing - 1) 0x80 0xBF (by omega) (Nat.le_refl 0x80)
      rcases hgoesOn with
        ⟨c, part, rest, hbytes, hlength, hpart⟩ | ⟨part, rest, hbytes, hpart, hitems⟩
      · refine .inl ⟨b, c :: part, rest, congrArg (b :: ·) hbytes, ?_, hb.1, hb.2, ?_⟩
        · rw [List.length_cons]
          omega
        · exact List.forall_mem_cons.2 ⟨⟨hpart.low_le, hpart.le_high⟩, hpart.tail⟩
      · refine .inr ⟨b :: part, rest, congrArg (b :: ·) hbytes, ?_, ?_⟩
        · exact List.forall_mem_cons.2 ⟨Nat.le_trans hlow hb.1, hpart⟩
        · rw [itemsFrom_inside hb, if_neg hone, hitems]
    · -- The byte that does not go on is read once more, as the first one of what is behind.
      refine .inr ⟨[], b :: bytes, rfl, List.forall_mem_nil _, ?_⟩
      have hrange : (decide (low ≤ b.toNat) && decide (b.toNat ≤ high)) = false := by
        rw [Bool.and_eq_false_iff, decide_eq_false_iff_not, decide_eq_false_iff_not]
        omega
      rw [itemsFrom_cons, itemsFrom_cons]
      simp only [step, hrange, Bool.false_eq_true, if_false]
      rfl

/-- Bytes that complete a character give one that is not of one byte. -/
theorem le_toNat_of_completes
    (h : leading a.toNat = some (.inside bits (part.length + 1) low high))
    (hpart : Completes low high b part) :
    0x80 ≤ (Char.ofNat ((b :: part).foldl push bits)).toNat := by
  obtain ⟨hvalid, hbytes⟩ := encodeNat_of_completes h hpart rfl
  rw [toNat_ofNat_of_isValidChar hvalid]
  by_contra hlt
  rw [encodeNat, if_pos (by omega)] at hbytes
  cases hbytes

theorem Reads.one_byte (ha : a < 0x80) (h : Reads bytes text) :
    Reads (a :: bytes) (Char.ofNat a.toNat :: text) := by
  have hlt : a.toNat < 0x80 := ha
  have htoNat : (Char.ofNat a.toNat).toNat = a.toNat :=
    toNat_ofNat_of_isValidChar (.inl (by omega))
  have hreads := Reads.ascii (c := Char.ofNat a.toNat) (by omega) h
  rwa [htoNat, UInt8.ofNat_toNat] at hreads

/-- A byte that is no ASCII character is read, with more such bytes behind it or alone, as a
character that is none either. -/
theorem exists_decode_cons (ha : ¬ a < 0x80) (bytes : Bytes) :
    ∃ part rest c, a :: bytes = part ++ rest ∧ part ≠ [] ∧ (∀ b ∈ part, 0x80 ≤ b.toNat) ∧
      0x80 ≤ c.toNat ∧ decode (a :: bytes) = c :: decode rest := by
  have hmany : 0x80 ≤ a.toNat := Nat.le_of_not_lt ha
  have hreplacement : 0x80 ≤ replacement.toNat := by decide
  cases hleading : leading a.toNat with
  | none =>
    refine ⟨[a], bytes, replacement, rfl, List.cons_ne_nil a [], List.forall_mem_singleton.2 hmany,
      hreplacement, ?_⟩
    rw [decode, items, itemsFrom_cons, step, begin, if_neg ha, hleading]
    rfl
  | some state =>
    have hdecode : decode (a :: bytes) = (itemsFrom state [] bytes).map (·.getD replacement) := by
      rw [decode, items, itemsFrom_cons, step_start_of_leading hleading ha]
      rfl
    cases state with
    | start => exact absurd hleading (leading_ne_start _)
    | inside bits missing low high =>
      obtain ⟨hlow, -, hcases⟩ := leading_eq_some hleading
      rcases completes_or_itemsFrom_eq (by omega : 0 < missing) hlow bytes with
        ⟨b, part, rest, rfl, rfl, hpart⟩ | ⟨part, rest, rfl, hpart, hitems⟩
      · refine ⟨a :: b :: part, rest, _, rfl, List.cons_ne_nil _ _, ?_,
          le_toNat_of_completes hleading hpart, ?_⟩
        · refine List.forall_mem_cons.2 ⟨hmany, List.forall_mem_cons.2 ⟨?_, ?_⟩⟩
          · exact Nat.le_trans hlow hpart.low_le
          · exact fun d hd => (hpart.tail d hd).1
        · rw [hdecode, hpart.itemsFrom_append]
          rfl
      · refine ⟨a :: part, rest, replacement, rfl, List.cons_ne_nil _ _,
          List.forall_mem_cons.2 ⟨hmany, hpart⟩, hreplacement, ?_⟩
        rw [hdecode, hitems]
        rfl

/-- The permissive reading of any bytes. -/
theorem reads_decode (bytes : Bytes) : Reads bytes (decode bytes) := by
  -- A character and an ill-formed part can both be longer than a byte.
  induction hlength : bytes.length using Nat.strongRecOn generalizing bytes with
  | _ length ih =>
    cases bytes with
    | nil => exact .nil
    | cons a bytes =>
      rw [List.length_cons] at hlength
      by_cases ha : a < 0x80
      · have hreads := (ih bytes.length (by omega) bytes rfl).one_byte ha
        rwa [decode, items, itemsFrom_cons, step, begin, if_pos ha]
      · obtain ⟨part, rest, c, hbytes, hne, hpart, hc, hdecode⟩ := exists_decode_cons ha bytes
        have hcount := congrArg List.length hbytes
        have hpos := List.length_pos_iff.2 hne
        rw [List.length_cons, List.length_append] at hcount
        rw [hdecode, hbytes]
        exact .other hc hne hpart (ih rest.length (by omega) rest rfl)

/-! ## Literals -/

theorem encode_cons_of_lt (hc : c.toNat < 0x80) (text : Text) :
    encode (c :: text) = .ofNat c.toNat :: encode text := by
  rw [encode, List.flatMap_cons, utf8EncodeChar_eq, encodeNat, if_pos (by omega)]
  rfl

theorem toNat_ofNat_of_lt (hc : c.toNat < 0x80) : (UInt8.ofNat c.toNat).toNat = c.toNat :=
  UInt8.toNat_ofNat_of_lt' (Nat.lt_trans hc (by decide))

theorem ofNat_toNat_beq {d : Char} (hc : c.toNat < 0x80) (hd : d.toNat < 0x80) :
    (UInt8.ofNat c.toNat == UInt8.ofNat d.toNat) = (c == d) := by
  rw [Bool.eq_iff_iff, beq_iff_eq, beq_iff_eq]
  constructor
  · intro h
    have htoNat := congrArg UInt8.toNat h
    rw [toNat_ofNat_of_lt hc, toNat_ofNat_of_lt hd] at htoNat
    rw [← Char.ofNat_toNat c, htoNat, Char.ofNat_toNat]
  · rintro rfl
    rfl

/-- No literal of ASCII characters starts at another byte. -/
theorem isPrefixOf_byte_of_le (hliteral : IsAscii literal) (hne : literal ≠ [])
    (hb : 0x80 ≤ b.toNat) (bytes : Bytes) : (encode literal).isPrefixOf (b :: bytes) = false := by
  cases literal with
  | nil => exact absurd rfl hne
  | cons c literal =>
    have hc := (List.forall_mem_cons.1 hliteral).1
    have hcb : (UInt8.ofNat c.toNat == b) = false := by
      rw [beq_eq_false_iff_ne]
      rintro rfl
      rw [toNat_ofNat_of_lt hc] at hb
      omega
    rw [encode_cons_of_lt hc, List.isPrefixOf_cons_cons, hcb, Bool.false_and]

/-- No literal of ASCII characters starts at another character. -/
theorem isPrefixOf_char_of_le (hliteral : IsAscii literal) (hne : literal ≠ [])
    (hc : 0x80 ≤ c.toNat) (text : Text) : literal.isPrefixOf (c :: text) = false := by
  cases literal with
  | nil => exact absurd rfl hne
  | cons d literal =>
    have hdc : (d == c) = false := by
      rw [beq_eq_false_iff_ne]
      rintro rfl
      exact Nat.not_lt.2 hc (List.forall_mem_cons.1 hliteral).1
    rw [List.isPrefixOf_cons_cons, hdc, Bool.false_and]

theorem Reads.isPrefixOf_eq (h : Reads bytes text) (hliteral : IsAscii literal) :
    (encode literal).isPrefixOf bytes = literal.isPrefixOf text := by
  induction literal generalizing bytes text with
  | nil => rw [encode, List.flatMap_nil, List.isPrefixOf_nil_left, List.isPrefixOf_nil_left]
  | cons c literal ih =>
    obtain ⟨hc, hrest⟩ := List.forall_mem_cons.1 hliteral
    cases h with
    | nil => rw [encode_cons_of_lt hc, List.isPrefixOf_cons_nil, List.isPrefixOf_cons_nil]
    | ascii hd h =>
      rw [encode_cons_of_lt hc, List.isPrefixOf_cons_cons, List.isPrefixOf_cons_cons,
        ofNat_toNat_beq hc hd, ih h hrest]
    | @other d part bytes text hd hne hpart h =>
      rw [isPrefixOf_char_of_le hliteral (List.cons_ne_nil c literal) hd]
      cases part with
      | nil => exact absurd rfl hne
      | cons b part =>
        exact isPrefixOf_byte_of_le hliteral (List.cons_ne_nil c literal)
          (List.forall_mem_cons.1 hpart).1 _

theorem infix_append_iff (hliteral : IsAscii literal) (hne : literal ≠ [])
    (hpart : ∀ b ∈ part, 0x80 ≤ b.toNat) (bytes : Bytes) :
    encode literal <:+: part ++ bytes ↔ encode literal <:+: bytes := by
  induction part with
  | nil => rfl
  | cons b part ih =>
    obtain ⟨hb, hpart⟩ := List.forall_mem_cons.1 hpart
    have hprefix := isPrefixOf_byte_of_le hliteral hne hb (part ++ bytes)
    rw [Bool.eq_false_iff, ne_eq, List.isPrefixOf_iff_prefix] at hprefix
    rw [List.cons_append, List.infix_cons_iff, or_iff_right hprefix, ih hpart]

/-- A literal is in the text if and only if it is in the bytes. -/
theorem Reads.contains_iff (h : Reads bytes text) (hliteral : IsAscii literal) (hne : literal ≠ []) :
    text.contains literal = true ↔ encode literal <:+: bytes := by
  induction h with
  | nil =>
    cases literal with
    | nil => exact absurd rfl hne
    | cons c literal =>
      rw [encode_cons_of_lt (List.forall_mem_cons.1 hliteral).1, List.infix_nil]
      exact iff_of_false Bool.false_ne_true (List.cons_ne_nil _ _)
  | ascii hc h ih =>
    rw [Text.contains, Bool.or_eq_true, ih, List.infix_cons_iff, ← List.isPrefixOf_iff_prefix,
      (Reads.ascii hc h).isPrefixOf_eq hliteral]
  | other hc _ hpart h ih =>
    rw [Text.contains, isPrefixOf_char_of_le hliteral hne hc, Bool.false_or, ih,
      infix_append_iff hliteral hne hpart]

/-! ## Positions -/

/-- The literals whose bytes stand at a position. -/
def literalsAt (literals : List Text) (bytes : Bytes) (position : Nat) : List Text :=
  literals.filter fun literal => (encode literal).isPrefixOf (bytes.drop position)

/-- The literals in some bytes, by position. -/
def literalsIn (literals : List Text) (bytes : Bytes) : List Text :=
  (List.range bytes.length).flatMap (literalsAt literals bytes)

theorem literalsIn_cons (literals : List Text) (b : UInt8) (bytes : Bytes) :
    literalsIn literals (b :: bytes) =
      literalsAt literals (b :: bytes) 0 ++ literalsIn literals bytes := by
  rw [literalsIn, List.length_cons, List.range_succ_eq_map, List.flatMap_cons, List.flatMap_map]
  rfl

theorem literalsIn_append (hliterals : ∀ literal ∈ literals, IsAscii literal ∧ literal ≠ [])
    (hpart : ∀ b ∈ part, 0x80 ≤ b.toNat) (bytes : Bytes) :
    literalsIn literals (part ++ bytes) = literalsIn literals bytes := by
  induction part with
  | nil => rfl
  | cons b part ih =>
    obtain ⟨hb, hpart⟩ := List.forall_mem_cons.1 hpart
    have hnone : literalsAt literals (b :: (part ++ bytes)) 0 = [] := by
      refine List.filter_eq_nil_iff.2 fun literal hmem => ?_
      have hprefix := isPrefixOf_byte_of_le (hliterals literal hmem).1 (hliterals literal hmem).2 hb
        (part ++ bytes)
      rw [List.drop_zero, hprefix]
      exact Bool.false_ne_true
    rw [List.cons_append, literalsIn_cons, hnone, List.nil_append, ih hpart]

theorem Reads.everyMatch_eq {p : Pattern} (h : Reads bytes text) (hp : p.Separate)
    (hanywhere : p.atBoundary = false) (hliterals : ∀ literal ∈ p.literals, IsAscii literal)
    (before : Option Char) : p.everyMatch before text = literalsIn p.literals bytes := by
  have hboth : ∀ literal ∈ p.literals, IsAscii literal ∧ literal ≠ [] :=
    fun literal hmem => ⟨hliterals literal hmem, hp.ne_nil literal hmem⟩
  induction h generalizing before with
  | nil => rfl
  | @ascii c bytes text hc h ih =>
    rw [Pattern.everyMatch, Pattern.toList_matchAt hp hanywhere, literalsIn_cons, ih]
    congr 1
    refine List.filter_congr fun literal hmem => ?_
    exact ((Reads.ascii hc h).isPrefixOf_eq (hliterals literal hmem)).symm
  | @other c part bytes text hc _ hpart h ih =>
    have hnone : p.literals.filter (·.isPrefixOf (c :: text)) = [] := by
      refine List.filter_eq_nil_iff.2 fun literal hmem => ?_
      rw [isPrefixOf_char_of_le (hboth literal hmem).1 (hboth literal hmem).2 hc]
      exact Bool.false_ne_true
    rw [Pattern.everyMatch, Pattern.toList_matchAt hp hanywhere, hnone, List.nil_append, ih,
      literalsIn_append hboth hpart]

/-- A scan of the text finds the literals that the bytes contain, by position. -/
theorem Reads.findAll_eq {p : Pattern} (h : Reads bytes text) (hp : p.Separate)
    (hanywhere : p.atBoundary = false) (hliterals : ∀ literal ∈ p.literals, IsAscii literal) :
    p.findAll text = literalsIn p.literals bytes := by
  rw [Pattern.findAll_eq_everyMatch hp, h.everyMatch_eq hp hanywhere hliterals]

/-! ## Characters -/

/-- A character of one byte is in the text as often as its byte is in the bytes. -/
theorem Reads.count_eq (h : Reads bytes text) (hc : c.toNat < 0x80) :
    text.count c = bytes.count (.ofNat c.toNat) := by
  induction h with
  | nil => rfl
  | ascii hd _ ih => rw [List.count_cons, List.count_cons, ofNat_toNat_beq hd hc, ih]
  | @other d part bytes text hd _ hpart _ ih =>
    have hne : d ≠ c := by
      rintro rfl
      omega
    have hnone : part.count (.ofNat c.toNat) = 0 := by
      rw [List.count_eq_zero]
      intro hmem
      have hbyte := hpart _ hmem
      rw [toNat_ofNat_of_lt hc] at hbyte
      omega
    rw [List.count_cons_of_ne hne, List.count_append, hnone, Nat.zero_add, ih]

/-! ## The last character -/

theorem Reads.eq_nil_iff (h : Reads bytes text) : text = [] ↔ bytes = [] := by
  cases h with
  | nil => exact iff_of_true rfl rfl
  | ascii => exact iff_of_false (List.cons_ne_nil _ _) (List.cons_ne_nil _ _)
  | other _ hne _ _ =>
    exact iff_of_false (List.cons_ne_nil _ _) (List.append_ne_nil_of_left_ne_nil hne _)

theorem Reads.getLast?_cons_iff {d : Char} (h : Reads bytes text)
    (ih : text.getLast? = some c ↔ bytes.getLast? = some b)
    (hfirst : d = c ↔ part.getLast? = some b) :
    (d :: text).getLast? = some c ↔ (part ++ bytes).getLast? = some b := by
  by_cases htext : text = []
  · rw [htext, h.eq_nil_iff.1 htext, List.append_nil, List.getLast?_singleton, Option.some_inj, hfirst]
  · have hbytes : bytes ≠ [] := fun hnil => htext (h.eq_nil_iff.2 hnil)
    obtain ⟨x, hx⟩ := Option.isSome_iff_exists.1 (List.getLast?_isSome.2 htext)
    obtain ⟨y, hy⟩ := Option.isSome_iff_exists.1 (List.getLast?_isSome.2 hbytes)
    rw [List.getLast?_cons, List.getLast?_append, hx, hy, Option.getD_some, Option.some_or, ← hx,
      ← hy, ih]

/-- The last character is an ASCII character if and only if its byte is the last one. -/
theorem Reads.getLast?_iff (h : Reads bytes text) (hc : c.toNat < 0x80) :
    text.getLast? = some c ↔ bytes.getLast? = some (.ofNat c.toNat) := by
  induction h with
  | nil => exact iff_of_false nofun nofun
  | @ascii d bytes text hd h ih =>
    have hfirst : d = c ↔ [UInt8.ofNat d.toNat].getLast? = some (.ofNat c.toNat) := by
      rw [List.getLast?_singleton, Option.some_inj, ← beq_iff_eq, ← ofNat_toNat_beq hd hc, beq_iff_eq]
    exact h.getLast?_cons_iff ih hfirst
  | @other d part bytes text hd _ hpart h ih =>
    have hfirst : d = c ↔ part.getLast? = some (.ofNat c.toNat) := by
      refine iff_of_false ?_ ?_
      · rintro rfl
        exact Nat.not_lt.2 hd hc
      · intro hlast
        have hlow := hpart _ (List.mem_of_getLast? hlast)
        rw [toNat_ofNat_of_lt hc] at hlow
        exact Nat.not_lt.2 hlow hc
    exact h.getLast?_cons_iff ih hfirst

end SourceGrade.Utf8
