import SourceGrade.Proofs.AssociationList
import SourceGrade.Proofs.Json.Items

/-!
# Records read back

A record that is printed as an object is read back field by field, or fails with the fault of its
first field that cannot be read.
-/

namespace SourceGrade

theorem mapM_eq_some_map {α β : Type} {f : α → Option β} {g : α → β} {list : List α}
    (h : ∀ a ∈ list, f a = some (g a)) : list.mapM f = some (list.map g) := by
  induction list with
  | nil => rfl
  | cons a rest ih =>
    rw [List.forall_mem_cons] at h
    rw [List.mapM_cons, h.1, ih h.2]
    rfl

namespace Json

/-! ## Rows -/

/-- A field of a record with what is printed for it and what is to be read. -/
structure Row where
  name : Text
  kind : FieldKind
  json : Json
  value : FieldValue

namespace Row

def field (row : Row) : Text × FieldKind := (row.name, row.kind)

def member (row : Row) : Text × Json := (row.name, row.json)

def entry (row : Row) : Text × FieldValue := (row.name, row.value)

/-- The row as a member of an object that is no part of anything else. -/
def line (row : Row) : Text := quotedLine 1 row.name ++ ": " ++ prettyAt 1 row.json

/-- What is printed is read as the value. -/
def Reads (row : Row) : Prop :=
  ∀ rest, EndsValue rest → row.kind.read (prettyAt 1 row.json ++ rest) = .ok (row.value, rest)

/-- What is printed cannot be read, with the given error. -/
def Fails (row : Row) (e : ReadError) : Prop :=
  ∀ rest, EndsValue rest → row.kind.read (prettyAt 1 row.json ++ rest) = .error e

end Row

variable {row : Row} {rows front back : List Row} {fields : Fields}
  {found : List (Text × FieldValue)} {fuel : Nat} {rest : Text} {e : ReadError}

/-! ## Printing -/

theorem newline_append_moreMembers (row : Row) (rows : List Row) :
    newline 1 ++ quote row.name ++ ": " ++ prettyAt 1 row.json ++
        moreMembers 1 (rows.map Row.member) =
      Text.join "," ((row :: rows).map Row.line) := by
  induction rows generalizing row with
  | nil =>
    rw [List.map_nil, moreMembers, List.append_nil]
    rfl
  | cons second rows ih =>
    rw [List.map_cons, Row.member, moreMembers, List.map_cons, List.map_cons, Text.join_cons_cons,
      ← List.map_cons, ← ih second]
    simp only [Row.line, quotedLine, List.append_assoc]

theorem pretty_object (hne : rows ≠ []) :
    (Json.object (rows.map Row.member)).pretty =
      '\x7b' :: (Text.join "," (rows.map Row.line) ++ (newline 0 ++ ['\x7d'])) := by
  cases rows with
  | nil => exact absurd rfl hne
  | cons row rows =>
    rw [← newline_append_moreMembers, List.map_cons, Row.member, pretty, prettyAt]
    simp only [List.append_assoc]
    rfl

/-! ## Reading a member -/

theorem read_blank (kind : FieldKind) (text : Text) : kind.read (' ' :: text) = kind.read text := by
  cases kind <;> rfl

theorem readMember_skipSpace (fields : Fields) (fuel : Nat) (found : List (Text × FieldValue))
    (text : Text) :
    readMember fields fuel found (skipSpace text) = readMember fields fuel found text := by
  rw [readMember, readMember, skipSpace_skipSpace]

/-- A member of a field that is still missing is up to the kind of the field. -/
theorem readMember_line (hfield : fields.lookup row.name = some row.kind)
    (hfound : found.lookup row.name = none) (rest : Text) :
    readMember fields fuel found (row.line ++ rest) =
      (row.kind.read (prettyAt 1 row.json ++ rest)).bind fun (value, rest) =>
        .ok ((row.name, value) :: found, rest) := by
  have hline : skipSpace (row.line ++ rest) = '"' :: (row.name.flatMap escape ++
      '"' :: ':' :: ' ' :: (prettyAt 1 row.json ++ rest)) := by
    rw [Row.line, quotedLine, List.append_assoc, List.append_assoc, List.append_assoc,
      skipSpace_newline, quote]
    simp only [List.append_assoc, List.cons_append, List.nil_append]
    exact skipSpace_cons rfl _
  have hname : ∀ rest, readString (row.name.flatMap escape ++ '"' :: rest) = .ok (row.name, rest) :=
    stringFrom_flatMap_escape [] row.name
  have hcolon : ∀ rest, readColon (':' :: rest) = .ok ((), rest) := fun _ => rfl
  rw [readMember, hline]
  simp only [bind, hname, Except.bind, hfield, hfound, hcolon, read_blank, Option.isSome_none,
    Bool.false_eq_true, if_false]
  rfl

/-! ## Reading the members -/

theorem takes_readMember (fuel : Nat) (found : List (Text × FieldValue))
    (hrows : ∀ row ∈ rows, fields.lookup row.name = some row.kind)
    (hnames : (rows.map Row.name).Nodup) (hnew : ∀ row ∈ rows, row.name ∉ found.map (·.1))
    (hreads : ∀ row ∈ rows, row.Reads) :
    Takes (readMember fields fuel) found (rows.map Row.line)
      ((rows.map Row.entry).reverse ++ found) := by
  induction rows generalizing found with
  | nil => exact .nil found
  | cons row rows ih =>
    rw [List.forall_mem_cons] at hrows hnew hreads
    rw [List.map_cons, List.nodup_cons] at hnames
    rw [List.map_cons, List.map_cons, List.reverse_cons, List.append_assoc, List.singleton_append]
    refine .cons (fun rest hrest => ?_) (ih (row.entry :: found) hrows.2 hnames.2 ?_ hreads.2)
    · rw [readMember_line hrows.1 (lookup_eq_none_of_notMem hnew.1), hreads.1 rest hrest]
      rfl
    · -- No later field has the name that was just found.
      intro other hother
      rw [List.map_cons, List.mem_cons, not_or]
      refine ⟨fun heq => hnames.1 ?_, hnew.2 other hother⟩
      have hname : other.name = row.name := heq
      exact hname ▸ List.mem_map_of_mem hother

theorem lookup_field (hnames : (rows.map Row.name).Nodup) :
    ∀ row ∈ rows, (rows.map Row.field).lookup row.name = some row.kind := by
  intro row hrow
  refine lookup_of_mem ?_ (List.mem_map_of_mem (f := Row.field) hrow)
  rw [List.map_map]
  exact hnames

/-- The fields that were found, the last one first, are looked up in the order of the record. -/
theorem mapM_lookup_entry (hnames : (rows.map Row.name).Nodup) :
    ((rows.map Row.field).mapM fun (name, _) => (rows.map Row.entry).reverse.lookup name) =
      some (rows.map Row.value) := by
  have hdistinct : (((rows.map Row.entry).reverse).map (·.1)).Nodup := by
    rw [List.map_reverse, (List.reverse_perm _).nodup_iff, List.map_map]
    exact hnames
  rw [List.mapM_map]
  refine mapM_eq_some_map fun row hrow => ?_
  exact lookup_of_mem hdistinct (List.mem_reverse.2 (List.mem_map_of_mem (f := Row.entry) hrow))

theorem skipSpace_line_ne (rows : List Row) {close : Char} (hclose : '"' ≠ close) :
    ∀ part ∈ rows.map Row.line, ∀ rest,
      ∃ c tail, skipSpace (part ++ rest) = c :: tail ∧ c ≠ close := by
  intro part hpart rest
  obtain ⟨row, -, rfl⟩ := List.mem_map.1 hpart
  rw [Row.line, List.append_assoc, List.append_assoc]
  obtain ⟨tail, htail⟩ := exists_skipSpace_quotedLine 1 row.name _
  exact ⟨_, tail, htail, hclose⟩

/-! ## Records -/

/-- The first part of reading a record is to find its members. -/
theorem readAll_readRecord (hne : rows ≠ []) (fields : Fields) :
    readAll (readRecord fields) (Json.object (rows.map Row.member)).pretty =
      (readMembers fields (Text.join "," (rows.map Row.line) ++ (newline 0 ++ ['\x7d']))).bind
        fun (values, rest) => if (skipSpace rest).isEmpty then .ok values else .error .malformed := by
  rw [pretty_object hne, readAll, readRecord, skipSpace_cons rfl]
  rfl

/-- A printed record is read back if each of its fields is. -/
theorem readRecord_pretty (hne : rows ≠ []) (hnames : (rows.map Row.name).Nodup)
    (hreads : ∀ row ∈ rows, row.Reads) :
    readAll (readRecord (rows.map Row.field)) (Json.object (rows.map Row.member)).pretty =
      .ok (rows.map Row.value) := by
  have htakes (fuel : Nat) := takes_readMember fuel [] (lookup_field hnames) hnames
    (fun _ _ => List.not_mem_nil) hreads
  have hfold (fuel : Nat) := (htakes fuel).foldItems_eq (readMember_skipSpace _ _)
    (skipSpace_line_ne rows (by decide : '"' ≠ '\x7d')) (mt List.map_eq_nil_iff.1 hne) (by decide) rfl
    0 []
  rw [readAll_readRecord hne, readMembers, hfold]
  simp only [bind, Except.bind, List.append_nil, mapM_lookup_entry hnames]
  rfl

/-- A printed record fails with the fault of its first field that cannot be read. -/
theorem readRecord_pretty_error (hnames : ((front ++ row :: back).map Row.name).Nodup)
    (hreads : ∀ row ∈ front, row.Reads) (hfails : row.Fails e) :
    readAll (readRecord ((front ++ row :: back).map Row.field))
      (Json.object ((front ++ row :: back).map Row.member)).pretty = .error e := by
  have hlookup := lookup_field hnames
  rw [List.forall_mem_append, List.forall_mem_cons] at hlookup
  have hsplit := hnames
  rw [List.map_append, List.map_cons, List.nodup_append] at hsplit
  obtain ⟨hfront, -, hapart⟩ := hsplit
  have htakes (fuel : Nat) := takes_readMember fuel [] hlookup.1 hfront
    (fun _ _ => List.not_mem_nil) hreads
  have hnew : ((front.map Row.entry).reverse ++ []).lookup row.name = none := by
    refine lookup_eq_none_of_notMem ?_
    rw [List.append_nil, List.map_reverse, List.mem_reverse, List.map_map]
    exact fun hmem => hapart _ hmem _ List.mem_cons_self rfl
  have hline (fuel : Nat) (rest : Text) (hrest : EndsValue rest) :
      readMember ((front ++ row :: back).map Row.field) fuel ((front.map Row.entry).reverse ++ [])
        (row.line ++ rest) = .error e := by
    rw [readMember_line hlookup.2.1 hnew, hfails rest hrest]
    rfl
  have hlines : (front ++ row :: back).map Row.line =
      front.map Row.line ++ row.line :: back.map Row.line := by
    rw [List.map_append, List.map_cons]
  have hhead := skipSpace_line_ne (front ++ row :: back) (by decide : '"' ≠ '\x7d')
  rw [hlines] at hhead
  have hfold (fuel : Nat) := (htakes fuel).foldItems_eq_error (readMember_skipSpace _ _) hhead
    (hline fuel) 0 ['\x7d']
  rw [readAll_readRecord (by simp), readMembers, hlines, hfold]
  rfl

end Json

end SourceGrade
