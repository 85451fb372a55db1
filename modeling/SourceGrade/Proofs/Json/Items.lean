import SourceGrade.Proofs.Json.Digits

/-!
# Items read back

The items of a printed array or object, with commas between them and each on a line of its own, are
taken one after the other by a reader that takes each of them. A list of strings is read back so.
-/

namespace SourceGrade

namespace Json

variable {σ : Type} {item : σ → Reader σ} {close : Char} {fuel depth : Nat} {state mid last : σ}
  {part text rest : Text} {parts front back texts : List Text} {e : ReadError}

/-! ## Items -/

theorem foldMore_comma (h : item state text = .ok (mid, ',' :: rest)) :
    foldMore close item (fuel + 1) state text = foldMore close item fuel mid rest := by
  rw [foldMore, h]
  rfl

theorem foldMore_close (hcomma : close ≠ ',') (hspace : isSpace close = false)
    (h : item state text = .ok (mid, newline depth ++ close :: rest)) :
    foldMore close item (fuel + 1) state text = .ok (mid, rest) := by
  have hskip : skipSpace (newline depth ++ close :: rest) = close :: rest := by
    rw [skipSpace_newline, skipSpace_cons hspace]
  rw [foldMore, h]
  simp only [bind, Except.bind, hskip, if_true]

theorem foldMore_error (h : item state text = .error e) :
    foldMore close item (fuel + 1) state text = .error e := by
  rw [foldMore, h]
  rfl

/-- An item reader takes the parts one after the other, from one state to another. -/
inductive Takes (item : σ → Reader σ) : σ → List Text → σ → Prop
  | nil (state : σ) : Takes item state [] state
  | cons {state mid last : σ} {part : Text} {parts : List Text}
      (hpart : ∀ rest, EndsValue rest → item state (part ++ rest) = .ok (mid, rest))
      (hparts : Takes item mid parts last) : Takes item state (part :: parts) last

/-- Parts with commas between them are taken up to the closing bracket. -/
theorem Takes.foldMore_eq (h : Takes item state (part :: parts) last) (hfuel : parts.length < fuel)
    (hcomma : close ≠ ',') (hspace : isSpace close = false) (depth : Nat) (rest : Text) :
    foldMore close item fuel state
      (Text.join "," (part :: parts) ++ (newline depth ++ close :: rest)) = .ok (last, rest) := by
  obtain ⟨fuel, rfl⟩ : ∃ n, fuel = n + 1 := ⟨fuel - 1, by omega⟩
  -- One part takes one unit of fuel, and the comma behind it asks for the next part.
  induction parts generalizing state part fuel with
  | nil =>
    cases h with
    | cons hpart hparts =>
      cases hparts
      exact foldMore_close hcomma hspace (hpart _ (endsValue_newline depth _))
  | cons second parts ih =>
    cases h with
    | @cons _ mid _ _ _ hpart hparts =>
      rw [List.length_cons] at hfuel
      obtain ⟨fuel, rfl⟩ : ∃ n, fuel = n + 1 := ⟨fuel - 1, by omega⟩
      rw [Text.join_cons_cons, List.append_assoc, List.append_assoc]
      exact (foldMore_comma (hpart _ (endsValue_comma _))).trans (ih hparts fuel (by omega))

/-- The first part that cannot be taken decides the error. -/
theorem Takes.foldMore_eq_error (h : Takes item state front mid) (hfuel : front.length < fuel)
    (hpart : ∀ rest, EndsValue rest → item mid (part ++ rest) = .error e) (depth : Nat)
    (rest : Text) :
    foldMore close item fuel state
      (Text.join "," (front ++ part :: back) ++ (newline depth ++ rest)) = .error e := by
  obtain ⟨fuel, rfl⟩ : ∃ n, fuel = n + 1 := ⟨fuel - 1, by omega⟩
  induction h generalizing fuel with
  | nil state =>
    cases back with
    | nil => exact foldMore_error (hpart _ (endsValue_newline depth rest))
    | cons second back =>
      rw [List.nil_append, Text.join_cons_cons, List.append_assoc, List.append_assoc]
      exact foldMore_error (hpart _ (endsValue_comma _))
  | @cons state mid' mid first front hfirst hfront ih =>
    rw [List.length_cons] at hfuel
    obtain ⟨fuel, rfl⟩ : ∃ n, fuel = n + 1 := ⟨fuel - 1, by omega⟩
    -- There is a comma behind the first part, whether or not the next one is the faulty one.
    have hjoin : Text.join "," (first :: front ++ part :: back) =
        first ++ "," ++ Text.join "," (front ++ part :: back) := by
      cases front with
      | nil => exact Text.join_cons_cons _ _ _ _
      | cons second front => exact Text.join_cons_cons _ _ _ _
    rw [hjoin, List.append_assoc, List.append_assoc]
    exact (foldMore_comma (hfirst _ (endsValue_comma _))).trans (ih hpart fuel (by omega))

/-- So that the fuel of a reader is enough. -/
theorem length_le_length_join (parts : List Text) :
    parts.length ≤ (Text.join "," parts).length + 1 := by
  induction parts with
  | nil => exact Nat.zero_le _
  | cons part parts ih =>
    cases parts with
    | nil => exact Nat.le_add_left 1 _
    | cons second parts =>
      rw [Text.join_cons_cons, List.length_append, List.length_append, List.length_cons]
      have hcomma : ",".toList.length = 1 := rfl
      omega

theorem skipSpace_skipSpace (text : Text) : skipSpace (skipSpace text) = skipSpace text := by
  induction text with
  | nil => rfl
  | cons c text ih =>
    cases hc : isSpace c with
    | true =>
      have hskip : skipSpace (c :: text) = skipSpace text := List.dropWhile_cons_of_pos hc
      rw [hskip, ih]
    | false => rw [skipSpace_cons hc, skipSpace_cons hc]

theorem exists_join_eq (first : Text) (others : List Text) :
    ∃ tail, Text.join "," (first :: others) = first ++ tail := by
  cases others with
  | nil => exact ⟨[], (List.append_nil first).symm⟩
  | cons second others =>
    rw [Text.join_cons_cons, List.append_assoc]
    exact ⟨_, rfl⟩

/-- A reader of items that passes over space in front of them may as well find it there. -/
theorem foldItems_eq_foldMore {c : Char}
    (hskip : ∀ state text, item state (skipSpace text) = item state text)
    (htext : skipSpace text = c :: rest) (hc : c ≠ close) :
    foldItems close item text.length state text = foldMore close item text.length state text := by
  have hitem := hskip state text
  rw [htext] at hitem
  rw [foldItems, htext]
  dsimp only
  rw [if_neg hc]
  -- Both go on from what the first item leaves, with the same fuel.
  cases text with
  | nil => cases htext
  | cons first text => rw [List.length_cons, foldMore, foldMore, hitem]

section list

variable (hskip : ∀ state text, item state (skipSpace text) = item state text)
  (hhead : ∀ part ∈ parts, ∀ rest, ∃ c tail, skipSpace (part ++ rest) = c :: tail ∧ c ≠ close)

include hskip hhead

theorem foldItems_join (hne : parts ≠ []) (rest : Text) :
    foldItems close item (Text.join "," parts ++ rest).length state (Text.join "," parts ++ rest) =
      foldMore close item (Text.join "," parts ++ rest).length state
        (Text.join "," parts ++ rest) := by
  cases parts with
  | nil => exact absurd rfl hne
  | cons first others =>
    obtain ⟨tail, hjoin⟩ := exists_join_eq first others
    obtain ⟨c, behind, hc, hclose⟩ := hhead first List.mem_cons_self (tail ++ rest)
    rw [← List.append_assoc, ← hjoin] at hc
    exact foldItems_eq_foldMore hskip hc hclose

theorem Takes.foldItems_eq (h : Takes item state parts last) (hne : parts ≠ [])
    (hcomma : close ≠ ',') (hspace : isSpace close = false) (depth : Nat) (rest : Text) :
    foldItems close item (Text.join "," parts ++ (newline depth ++ close :: rest)).length state
      (Text.join "," parts ++ (newline depth ++ close :: rest)) = .ok (last, rest) := by
  rw [foldItems_join hskip hhead hne]
  cases parts with
  | nil => exact absurd rfl hne
  | cons part parts =>
    have hlength := length_le_length_join (part :: parts)
    refine h.foldMore_eq ?_ hcomma hspace depth rest
    rw [List.length_cons] at hlength
    rw [List.length_append, List.length_append, List.length_cons]
    omega

end list

theorem Takes.foldItems_eq_error
    (hskip : ∀ state text, item state (skipSpace text) = item state text)
    (hhead : ∀ p ∈ front ++ part :: back, ∀ rest,
      ∃ c tail, skipSpace (p ++ rest) = c :: tail ∧ c ≠ close)
    (h : Takes item state front mid)
    (hpart : ∀ rest, EndsValue rest → item mid (part ++ rest) = .error e)
    (depth : Nat) (rest : Text) :
    foldItems close item
      (Text.join "," (front ++ part :: back) ++ (newline depth ++ rest)).length state
      (Text.join "," (front ++ part :: back) ++ (newline depth ++ rest)) = .error e := by
  rw [foldItems_join hskip hhead (by simp)]
  refine h.foldMore_eq_error ?_ hpart depth rest
  have hlength := length_le_length_join (front ++ part :: back)
  have hnewline : 0 < (newline depth).length := Nat.succ_pos _
  rw [List.length_append, List.length_cons] at hlength
  rw [List.length_append, List.length_append]
  omega

/-! ## Lists of strings -/

/-- A string on a line of its own. -/
def quotedLine (depth : Nat) (text : Text) : Text := newline depth ++ quote text

theorem exists_skipSpace_quotedLine (depth : Nat) (text rest : Text) :
    ∃ tail, skipSpace (quotedLine depth text ++ rest) = '"' :: tail := by
  rw [quotedLine, List.append_assoc, skipSpace_newline]
  exact ⟨_, skipSpace_cons rfl _⟩

theorem readText_skipSpace (text : Text) : readText (skipSpace text) = readText text := by
  rw [readText, readText, skipSpace_skipSpace]

theorem readText_quotedLine (depth : Nat) (text rest : Text) :
    readText (quotedLine depth text ++ rest) = .ok (text, rest) := by
  rw [quotedLine, List.append_assoc, ← readText_skipSpace, skipSpace_newline, readText_skipSpace,
    readText_quote]

theorem newline_append_moreItems (depth : Nat) (text : Text) (texts : List Text) :
    newline depth ++ quote text ++ moreItems depth (texts.map .string) =
      Text.join "," ((text :: texts).map (quotedLine depth)) := by
  induction texts generalizing text with
  | nil => rw [List.map_nil, moreItems, List.append_nil]; rfl
  | cons second texts ih =>
    rw [List.map_cons, moreItems, prettyAt, List.map_cons, List.map_cons, Text.join_cons_cons,
      ← List.map_cons, ← ih second]
    simp only [quotedLine, List.append_assoc]

theorem prettyAt_strings (depth : Nat) (text : Text) (texts : List Text) :
    prettyAt depth (.array ((text :: texts).map .string)) =
      "[" ++ Text.join "," ((text :: texts).map (quotedLine (depth + 1))) ++ newline depth ++ "]" := by
  rw [← newline_append_moreItems, List.map_cons, prettyAt, prettyAt]
  simp only [List.append_assoc]

/-- Reads one string in front of those read so far. -/
def readItem (texts : List Text) : Reader (List Text) := fun rest =>
  Prod.map (· :: texts) id <$> readText rest

theorem takes_readItem (depth : Nat) (texts read : List Text) :
    Takes readItem read (texts.map (quotedLine depth)) (texts.reverse ++ read) := by
  induction texts generalizing read with
  | nil => exact .nil read
  | cons text texts ih =>
    rw [List.reverse_cons, List.append_assoc, List.singleton_append]
    refine .cons (fun rest _ => ?_) (ih (text :: read))
    rw [readItem, readText_quotedLine]
    rfl

theorem skipSpace_quotedLine_ne {close : Char} (hclose : '"' ≠ close) :
    ∀ part ∈ texts.map (quotedLine depth), ∀ rest,
      ∃ c tail, skipSpace (part ++ rest) = c :: tail ∧ c ≠ close := by
  intro part hpart rest
  obtain ⟨text, -, rfl⟩ := List.mem_map.1 hpart
  obtain ⟨tail, htail⟩ := exists_skipSpace_quotedLine depth text rest
  exact ⟨_, tail, htail, hclose⟩

/-- A printed list of strings is read back as it was. -/
theorem readTexts_prettyAt (depth : Nat) (texts : List Text) (rest : Text) :
    readTexts (prettyAt depth (.array (texts.map .string)) ++ rest) = .ok (texts, rest) := by
  cases texts with
  | nil => rfl
  | cons text texts =>
    have htext : prettyAt depth (.array ((text :: texts).map .string)) ++ rest =
        '[' :: (Text.join "," ((text :: texts).map (quotedLine (depth + 1))) ++
          (newline depth ++ ']' :: rest)) := by
      rw [prettyAt_strings]
      simp only [List.append_assoc]
      rfl
    have hfold := (takes_readItem (depth + 1) (text :: texts) []).foldItems_eq
      (fun _ _ => by rw [readItem, readItem, readText_skipSpace])
      (skipSpace_quotedLine_ne (by decide : '"' ≠ ']')) (List.cons_ne_nil _ _)
      (by decide) rfl depth rest
    rw [htext, readTexts, skipSpace_cons rfl]
    show Prod.map List.reverse id <$> foldItems ']' readItem _ [] _ = _
    rw [hfold, List.append_nil]
    exact congrArg (fun texts => Except.ok (texts, rest)) (List.reverse_reverse _)

end Json

end SourceGrade
