import Mathlib.Data.List.Basic
import SourceGrade.Text.Utf8

/-!
# UTF-8 read strictly

The strict reading of bytes gives a text exactly if they are its encoding (`decode?_eq_some_iff`).
-/

namespace SourceGrade.Utf8

variable {bits missing low high v : Nat} {a b : UInt8} {part rest bytes : Bytes} {text : Text}

/-! ## Items -/

theorem itemsFrom_eq (state : State) (done : List Item) (bytes : Bytes) :
    itemsFrom state done bytes = done.reverse ++ itemsFrom state [] bytes := by
  induction bytes generalizing state done with
  | nil =>
    cases state with
    | start => exact (List.append_nil _).symm
    | inside => exact List.reverse_cons
  | cons b rest ih =>
    show itemsFrom (step state b).2 ((step state b).1.reverse ++ done) rest =
      done.reverse ++ itemsFrom (step state b).2 ((step state b).1.reverse ++ []) rest
    rw [ih, ih _ (_ ++ []), List.append_nil, List.reverse_append, List.append_assoc]

theorem itemsFrom_cons (state : State) (b : UInt8) (rest : Bytes) :
    itemsFrom state [] (b :: rest) = (step state b).1 ++ itemsFrom (step state b).2 [] rest := by
  show itemsFrom (step state b).2 ((step state b).1.reverse ++ []) rest = _
  rw [itemsFrom_eq, List.append_nil, List.reverse_reverse]

/-! ## Characters of two bytes or more -/

/-- A byte gives a character six more bits. -/
def push (bits : Nat) (b : UInt8) : Nat := bits * 64 + (b.toNat - 0x80)

/-- Bytes inside of a character, of which the first one has a range of its own. -/
structure Completes (low high : Nat) (b : UInt8) (part : Bytes) : Prop where
  low_le : low ≤ b.toNat
  le_high : b.toNat ≤ high
  tail : ∀ c ∈ part, 0x80 ≤ c.toNat ∧ c.toNat ≤ 0xBF

theorem itemsFrom_inside (hb : low ≤ b.toNat ∧ b.toNat ≤ high) (rest : Bytes) :
    itemsFrom (.inside bits missing low high) [] (b :: rest) =
      if missing ≤ 1 then
        some (Char.ofNat (push bits b)) :: itemsFrom .start [] rest
      else itemsFrom (.inside (push bits b) (missing - 1) 0x80 0xBF) [] rest := by
  have hrange : (decide (low ≤ b.toNat) && decide (b.toNat ≤ high)) = true := by
    rw [Bool.and_eq_true, decide_eq_true_eq, decide_eq_true_eq]
    exact hb
  rw [itemsFrom_cons, step, if_pos hrange]
  split <;> rfl

theorem Completes.itemsFrom_append (h : Completes low high b part) (bits : Nat) (rest : Bytes) :
    itemsFrom (.inside bits (part.length + 1) low high) [] (b :: part ++ rest) =
      some (Char.ofNat ((b :: part).foldl push bits)) :: itemsFrom .start [] rest := by
  induction part generalizing low high b bits with
  | nil => exact itemsFrom_inside ⟨h.low_le, h.le_high⟩ rest
  | cons c part ih =>
    have htail := List.forall_mem_cons.1 h.tail
    rw [List.cons_append, itemsFrom_inside ⟨h.low_le, h.le_high⟩, List.length_cons,
      if_neg (by omega), Nat.add_sub_cancel, List.foldl_cons]
    exact ih ⟨htail.1.1, htail.1.2, htail.2⟩ (push bits b)

/-- Without ill-formed parts a character that has been begun is completed. -/
theorem exists_completes (hmissing : 0 < missing)
    (h : none ∉ itemsFrom (.inside bits missing low high) [] bytes) :
    ∃ b part rest, bytes = b :: part ++ rest ∧ part.length + 1 = missing ∧
      Completes low high b part := by
  induction bytes generalizing bits missing low high with
  | nil => exact absurd (List.mem_singleton_self none) h
  | cons b bytes ih =>
    by_cases hb : low ≤ b.toNat ∧ b.toNat ≤ high
    · rw [itemsFrom_inside hb] at h
      split at h
      next hone =>
        refine ⟨b, [], bytes, rfl, ?_, hb.1, hb.2, List.forall_mem_nil _⟩
        rw [List.length_nil]
        omega
      next hmore =>
        obtain ⟨c, part, rest, rfl, hlength, hpart⟩ := ih (by omega) h
        refine ⟨b, c :: part, rest, rfl, ?_, hb.1, hb.2, ?_⟩
        · rw [List.length_cons]
          omega
        · exact List.forall_mem_cons.2 ⟨⟨hpart.low_le, hpart.le_high⟩, hpart.tail⟩
    · have hrange : (decide (low ≤ b.toNat) && decide (b.toNat ≤ high)) = false := by
        rw [Bool.and_eq_false_iff, decide_eq_false_iff_not, decide_eq_false_iff_not]
        omega
      rw [itemsFrom_cons, step, hrange] at h
      exact absurd List.mem_cons_self h

/-- The encoding of a character of a number. -/
def encodeNat (v : Nat) : Bytes :=
  if v ≤ 0x7F then [.ofNat v]
  else if v ≤ 0x7FF then [.ofNat (v / 64 % 32 + 192), .ofNat (v % 64 + 128)]
  else if v ≤ 0xFFFF then
    [.ofNat (v / 4096 % 16 + 224), .ofNat (v / 64 % 64 + 128), .ofNat (v % 64 + 128)]
  else
    [.ofNat (v / 262144 % 8 + 240), .ofNat (v / 4096 % 64 + 128), .ofNat (v / 64 % 64 + 128),
      .ofNat (v % 64 + 128)]

theorem utf8EncodeChar_eq (c : Char) : String.utf8EncodeChar c = encodeNat c.toNat := rfl

/-- What a first byte says about the bytes behind it. -/
theorem leading_eq_some (h : leading a.toNat = some (.inside bits missing low high)) :
    0x80 ≤ low ∧ high ≤ 0xBF ∧
    (missing = 1 ∧ 0xC2 ≤ a.toNat ∧ a.toNat ≤ 0xDF ∧ bits = a.toNat - 0xC0 ∨
      missing = 2 ∧ 0xE0 ≤ a.toNat ∧ a.toNat ≤ 0xEF ∧ bits = a.toNat - 0xE0 ∧
        (bits = 0 → 0xA0 ≤ low) ∧ (bits = 0xD → high ≤ 0x9F) ∨
      missing = 3 ∧ 0xF0 ≤ a.toNat ∧ a.toNat ≤ 0xF4 ∧ bits = a.toNat - 0xF0 ∧
        (bits = 0 → 0x90 ≤ low) ∧ (bits = 4 → high ≤ 0x8F)) := by
  unfold leading at h
  simp only [Bool.and_eq_true, decide_eq_true_eq, beq_iff_eq] at h
  repeat' split at h
  all_goals
    simp only [Option.some.injEq, State.inside.injEq, reduceCtorEq] at h
  all_goals omega

theorem leading_ne_start (n : Nat) : leading n ≠ some .start := by
  unfold leading
  repeat' split
  all_goals exact nofun

theorem ofNat_of_eq {n : Nat} (h : n = a.toNat) : UInt8.ofNat n = a := by
  rw [h, UInt8.ofNat_toNat]

/-- Bytes that complete a character are the encoding of their number, which is one of a character. -/
theorem encodeNat_of_completes
    (h : leading a.toNat = some (.inside bits (part.length + 1) low high))
    (hpart : Completes low high b part) (hv : v = (b :: part).foldl push bits) :
    v.isValidChar ∧ encodeNat v = a :: b :: part := by
  obtain ⟨hb, hb', htail⟩ := hpart
  -- The range of the second byte keeps out surrogates and what could be encoded shorter.
  unfold Nat.isValidChar
  obtain ⟨hlow, hhigh, htwo | hthree | hfour⟩ := leading_eq_some h
  · have hlength : part.length = 0 := by omega
    rw [List.length_eq_zero_iff] at hlength
    subst hlength
    rw [List.foldl_cons, List.foldl_nil] at hv
    unfold push at hv
    refine ⟨by omega, ?_⟩
    rw [encodeNat, if_neg (by omega), if_pos (by omega), ofNat_of_eq (a := a) (by omega),
      ofNat_of_eq (a := b) (by omega)]
  · have hlength : part.length = 1 := by omega
    obtain ⟨c, rfl⟩ := List.length_eq_one_iff.1 hlength
    have hc := htail c (List.mem_singleton_self c)
    rw [List.foldl_cons, List.foldl_cons, List.foldl_nil] at hv
    unfold push at hv
    refine ⟨by omega, ?_⟩
    rw [encodeNat, if_neg (by omega), if_neg (by omega), if_pos (by omega),
      ofNat_of_eq (a := a) (by omega), ofNat_of_eq (a := b) (by omega),
      ofNat_of_eq (a := c) (by omega)]
  · have hlength : part.length = 2 := by omega
    obtain ⟨c, d, rfl⟩ := List.length_eq_two.1 hlength
    simp only [List.forall_mem_cons] at htail
    rw [List.foldl_cons, List.foldl_cons, List.foldl_cons, List.foldl_nil] at hv
    unfold push at hv
    refine ⟨by omega, ?_⟩
    rw [encodeNat, if_neg (by omega), if_neg (by omega), if_neg (by omega),
      ofNat_of_eq (a := a) (by omega), ofNat_of_eq (a := b) (by omega),
      ofNat_of_eq (a := c) (by omega), ofNat_of_eq (a := d) (by omega)]

theorem leading_two {n : Nat} (h : 0xC2 ≤ n) (h' : n ≤ 0xDF) :
    leading n = some (.inside (n - 0xC0) 1 0x80 0xBF) := by
  unfold leading
  simp only [Bool.and_eq_true, decide_eq_true_eq]
  rw [if_pos ⟨h, h'⟩]

theorem leading_three {n : Nat} (h : 0xE0 ≤ n) (h' : n ≤ 0xEF) :
    leading n = some (.inside (n - 0xE0) 2 (if n = 0xE0 then 0xA0 else 0x80)
      (if n = 0xED then 0x9F else 0xBF)) := by
  by_cases hfirst : n = 0xE0
  · subst hfirst
    rfl
  by_cases hsurrogates : n = 0xED
  · subst hsurrogates
    rfl
  unfold leading
  simp only [Bool.and_eq_true, decide_eq_true_eq, beq_iff_eq]
  rw [if_neg (by omega), if_neg hfirst, if_neg hsurrogates, if_pos (by omega), if_neg hfirst,
    if_neg hsurrogates]

theorem leading_four {n : Nat} (h : 0xF0 ≤ n) (h' : n ≤ 0xF4) :
    leading n = some (.inside (n - 0xF0) 3 (if n = 0xF0 then 0x90 else 0x80)
      (if n = 0xF4 then 0x8F else 0xBF)) := by
  by_cases hfirst : n = 0xF0
  · subst hfirst
    rfl
  by_cases hlast : n = 0xF4
  · subst hlast
    rfl
  unfold leading
  simp only [Bool.and_eq_true, decide_eq_true_eq, beq_iff_eq]
  rw [if_neg (by omega), if_neg (by omega), if_neg (by omega), if_neg (by omega), if_neg hfirst,
    if_pos (by omega), if_neg hfirst, if_neg hlast]

theorem exists_toNat_eq {n : Nat} (h : n < 256) : ∃ a : UInt8, UInt8.ofNat n = a ∧ a.toNat = n :=
  ⟨.ofNat n, rfl, UInt8.toNat_ofNat_of_lt' h⟩

/-- The encoding of a character of two bytes or more is a first byte with bytes that complete it. -/
theorem exists_encodeNat_eq (hv : v.isValidChar) (hmany : 0x80 ≤ v) :
    ∃ a b part bits low high, encodeNat v = a :: b :: part ∧
      leading a.toNat = some (.inside bits (part.length + 1) low high) ∧ Completes low high b part ∧
      v = (b :: part).foldl push bits := by
  unfold Nat.isValidChar at hv
  -- The bytes are named from the last one on, since the encodings of all lengths end alike.
  obtain ⟨z, hz, hz'⟩ := exists_toNat_eq (n := v % 64 + 128) (by omega)
  by_cases htwo : v ≤ 0x7FF
  · obtain ⟨a, ha, ha'⟩ := exists_toNat_eq (n := v / 64 % 32 + 192) (by omega)
    refine ⟨a, z, [], _, _, _, ?_, leading_two (by omega) (by omega), ⟨by omega, by omega, by simp⟩,
      ?_⟩
    · rw [encodeNat, if_neg (by omega), if_pos htwo, ha, hz]
    · rw [List.foldl_cons, List.foldl_nil]
      unfold push
      omega
  obtain ⟨y, hy, hy'⟩ := exists_toNat_eq (n := v / 64 % 64 + 128) (by omega)
  by_cases hthree : v ≤ 0xFFFF
  · obtain ⟨a, ha, ha'⟩ := exists_toNat_eq (n := v / 4096 % 16 + 224) (by omega)
    refine ⟨a, y, [z], _, _, _, ?_, leading_three (by omega) (by omega), ⟨?_, ?_, ?_⟩, ?_⟩
    · rw [encodeNat, if_neg (by omega), if_neg htwo, if_pos hthree, ha, hy, hz]
    · split <;> omega
    · split <;> omega
    · rw [List.forall_mem_singleton]
      omega
    · rw [List.foldl_cons, List.foldl_cons, List.foldl_nil]
      unfold push
      omega
  obtain ⟨x, hx, hx'⟩ := exists_toNat_eq (n := v / 4096 % 64 + 128) (by omega)
  obtain ⟨a, ha, ha'⟩ := exists_toNat_eq (n := v / 262144 % 8 + 240) (by omega)
  refine ⟨a, x, [y, z], _, _, _, ?_, leading_four (by omega) (by omega), ⟨?_, ?_, ?_⟩, ?_⟩
  · rw [encodeNat, if_neg (by omega), if_neg htwo, if_neg hthree, ha, hx, hy, hz]
  · split <;> omega
  · split <;> omega
  · simp only [List.forall_mem_cons]
    refine ⟨by omega, by omega, List.forall_mem_nil _⟩
  · rw [List.foldl_cons, List.foldl_cons, List.foldl_cons, List.foldl_nil]
    unfold push
    omega

/-! ## Texts -/

theorem toNat_ofNat_of_isValidChar (hv : v.isValidChar) : (Char.ofNat v).toNat = v := by
  rw [Char.ofNat, dif_pos hv]
  rfl

theorem step_start_of_leading {state : State} (h : leading a.toNat = some state)
    (hmany : ¬ a < 0x80) : step .start a = ([], state) := by
  rw [step, begin, if_neg hmany, h]

theorem not_lt_of_leading {state : State} (h : leading a.toNat = some state) : ¬ a < 0x80 := by
  intro hone
  have hlt : a.toNat < 0x80 := hone
  unfold leading at h
  simp only [Bool.and_eq_true, decide_eq_true_eq, beq_iff_eq] at h
  rw [if_neg (by omega), if_neg (by omega), if_neg (by omega), if_neg (by omega), if_neg (by omega),
    if_neg (by omega), if_neg (by omega)] at h
  cases h

/-- An encoded character is read as that character. -/
theorem itemsFrom_encodeChar (c : Char) (rest : Bytes) :
    itemsFrom .start [] (String.utf8EncodeChar c ++ rest) = some c :: itemsFrom .start [] rest := by
  rw [utf8EncodeChar_eq]
  by_cases hone : c.toNat ≤ 0x7F
  · obtain ⟨a, ha, ha'⟩ := exists_toNat_eq (n := c.toNat) (by omega)
    have hlt : a < 0x80 := by
      show a.toNat < 0x80
      omega
    rw [encodeNat, if_pos hone, ha, List.singleton_append, itemsFrom_cons, step, begin, if_pos hlt, ha',
      Char.ofNat_toNat]
    rfl
  · have hvalid : c.toNat.isValidChar := c.valid
    obtain ⟨a, b, part, bits, low, high, hbytes, hleading, hpart, hv⟩ :=
      exists_encodeNat_eq hvalid (Nat.lt_of_not_le hone)
    rw [hbytes, List.cons_append, itemsFrom_cons,
      step_start_of_leading hleading (not_lt_of_leading hleading)]
    have hitems := hpart.itemsFrom_append bits rest
    -- The bits that the bytes have pushed are those of the character.
    rw [← hv, Char.ofNat_toNat] at hitems
    exact hitems

/-- Without ill-formed parts bytes start with an encoded character. -/
theorem exists_encodeChar_append (h : none ∉ itemsFrom .start [] (a :: bytes)) :
    ∃ c rest, a :: bytes = String.utf8EncodeChar c ++ rest := by
  rw [itemsFrom_cons, step, begin] at h
  by_cases hone : a < 0x80
  · have hlt : a.toNat < 0x80 := hone
    have hvalid : a.toNat.isValidChar := Or.inl (by omega)
    refine ⟨Char.ofNat a.toNat, bytes, ?_⟩
    rw [utf8EncodeChar_eq, toNat_ofNat_of_isValidChar hvalid, encodeNat, if_pos (by omega),
      UInt8.ofNat_toNat]
    rfl
  · rw [if_neg hone] at h
    cases hleading : leading a.toNat with
    | none =>
      rw [hleading] at h
      exact absurd List.mem_cons_self h
    | some state =>
      rw [hleading] at h
      cases state with
      | start => exact absurd hleading (leading_ne_start _)
      | inside bits missing low high =>
        have hmissing : 0 < missing := by
          obtain ⟨-, -, hcases⟩ := leading_eq_some hleading
          omega
        obtain ⟨b, part, rest, rfl, rfl, hpart⟩ := exists_completes hmissing h
        obtain ⟨hvalid, hbytes⟩ := encodeNat_of_completes hleading hpart rfl
        refine ⟨Char.ofNat ((b :: part).foldl push bits), rest, ?_⟩
        rw [utf8EncodeChar_eq, toNat_ofNat_of_isValidChar hvalid, hbytes]
        rfl

theorem items_encode (text : Text) : items (encode text) = text.map some := by
  induction text with
  | nil => rfl
  | cons c text ih =>
    rw [encode, List.flatMap_cons, items, itemsFrom_encodeChar, List.map_cons]
    exact congrArg (some c :: ·) ih

/-- Without ill-formed parts the first item is a character, whose encoding stands in front. -/
theorem exists_of_items_cons (h : items (a :: bytes) = text.map some) :
    ∃ c others rest, text = c :: others ∧ a :: bytes = String.utf8EncodeChar c ++ rest ∧
      items rest = others.map some := by
  have hnone : none ∉ itemsFrom .start [] (a :: bytes) := by
    intro hmem
    have hmap : none ∈ text.map some := h ▸ hmem
    obtain ⟨c, -, hc⟩ := List.mem_map.1 hmap
    cases hc
  obtain ⟨c, rest, hbytes⟩ := exists_encodeChar_append hnone
  rw [hbytes, items, itemsFrom_encodeChar] at h
  cases text with
  | nil => cases h
  | cons first others =>
    obtain ⟨hfirst, hothers⟩ := List.cons.inj h
    cases hfirst
    exact ⟨c, others, rest, rfl, hbytes, hothers⟩

theorem encode_of_items (h : items bytes = text.map some) : encode text = bytes := by
  induction text generalizing bytes with
  | nil =>
    cases bytes with
    | nil => rfl
    | cons a bytes =>
      obtain ⟨c, others, rest, htext, -⟩ := exists_of_items_cons h
      cases htext
  | cons c text ih =>
    cases bytes with
    | nil => cases h
    | cons a bytes =>
      obtain ⟨d, others, rest, htext, hbytes, hitems⟩ := exists_of_items_cons h
      cases htext
      rw [hbytes, encode, List.flatMap_cons]
      exact congrArg (String.utf8EncodeChar c ++ ·) (ih hitems)

theorem mapM_id_eq_some {items : List Item} {text : Text} (h : items.mapM id = some text) :
    items = text.map some := by
  induction items generalizing text with
  | nil =>
    cases h
    rfl
  | cons item items ih =>
    rw [List.mapM_cons] at h
    obtain ⟨c, rfl, hrest⟩ := Option.bind_eq_some_iff.1 h
    obtain ⟨rest, hitems, heq⟩ := Option.bind_eq_some_iff.1 hrest
    cases heq
    rw [ih hitems, List.map_cons]

theorem mapM_id_map_some (text : Text) : (text.map some).mapM id = some text := by
  induction text with
  | nil => rfl
  | cons c text ih =>
    rw [List.map_cons, List.mapM_cons, ih]
    rfl

/-- The strict reading gives a text exactly for its encoding. -/
theorem decode?_eq_some_iff : decode? bytes = some text ↔ encode text = bytes := by
  constructor
  · intro h
    exact encode_of_items (mapM_id_eq_some h)
  · rintro rfl
    rw [decode?, items_encode, mapM_id_map_some]

end SourceGrade.Utf8
