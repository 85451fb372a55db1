import SourceGrade.Json.Encode
import SourceGrade.Proofs.Json.Double
import SourceGrade.Proofs.Json.Record

/-!
# Printed values read back

What is printed of a language, of sub-scores and of signals is read back as it was. Only a mean length
that is no finite number cannot be read back, and is refused as a value of the wrong kind.
-/

namespace SourceGrade

/-! ## Fields -/

namespace Json.Row

def ofCount (bound : Nat) (name : Text) (n : Nat) : Row := ⟨name, .count bound, .nat n, .count n⟩

def ofFlag (name : Text) (value : Bool) : Row := ⟨name, .flag, .bool value, .flag value⟩

def ofTexts (name : Text) (texts : List Text) : Row :=
  ⟨name, .texts, .array (texts.map .string), .texts texts⟩

/-- A double, and the one that is read in its place. -/
def ofDouble (name : Text) (x y : Binary64) : Row := ⟨name, .number, .double x, .number y⟩

variable {name : Text}

theorem reads_ofCount {bound n : Nat} (hbound : bound ≤ UInt64.size) (hn : n < bound) :
    (ofCount bound name n).Reads := by
  intro rest hrest
  show Prod.map _ id <$> readCount bound (prettyAt 1 (.nat n) ++ rest) = _
  rw [prettyAt, readCount_ofNat hbound hn hrest]
  rfl

theorem reads_ofFlag (value : Bool) : (ofFlag name value).Reads := by
  intro rest _
  show Prod.map _ id <$> readFlag (prettyAt 1 (.bool value) ++ rest) = _
  rw [prettyAt]
  cases value <;> rfl

theorem reads_ofTexts (texts : List Text) : (ofTexts name texts).Reads := by
  intro rest _
  show Prod.map _ id <$> readTexts (prettyAt 1 (.array (texts.map .string)) ++ rest) = _
  rw [readTexts_prettyAt]
  rfl

theorem reads_ofDouble {x y : Binary64}
    (h : ∀ rest, EndsValue rest → readDouble (Json.ofDouble x ++ rest) = .ok (y, rest)) :
    (ofDouble name x y).Reads := by
  intro rest hrest
  show Prod.map _ id <$> readDouble (prettyAt 1 (.double x) ++ rest) = _
  rw [prettyAt, h rest hrest]
  rfl

theorem fails_ofDouble {x : Binary64} (y : Binary64) {e : ReadError}
    (h : ∀ rest, readDouble (Json.ofDouble x ++ rest) = .error e) :
    (ofDouble name x y).Fails e := by
  intro rest _
  show Prod.map _ id <$> readDouble (prettyAt 1 (.double x) ++ rest) = _
  rw [prettyAt, h rest]
  rfl

end Json.Row

/-! ## Languages -/

theorem Language.ofJson_pretty (tag : Text) :
    ofJson (ofTag tag).toJson.pretty = .ok (ofTag tag) := by
  have hread := Json.readText_quote tag []
  rw [List.append_nil] at hread
  rw [Language.toJson, Language.tag_ofTag, Json.pretty, Json.prettyAt, Language.ofJson, Json.readAll,
    hread]
  rfl

/-! ## Sub-scores -/

namespace Breakdown

def rows (b : Breakdown) : List Json.Row :=
  b.entries.map fun (name, n) => .ofCount UInt32.size name n

theorem ofJson_pretty (b : Breakdown) (hb : ∀ entry ∈ b.entries, entry.2 < UInt32.size) :
    ofJson b.toJson.pretty = .ok b := by
  have hnames : (b.rows.map Json.Row.name).Nodup := by
    have hfields : b.rows.map Json.Row.name = fields.map (·.1) := rfl
    rw [hfields]
    decide
  have hreads : ∀ row ∈ b.rows, row.Reads := by
    intro row hrow
    obtain ⟨entry, hentry, rfl⟩ := List.mem_map.1 hrow
    exact Json.Row.reads_ofCount (by decide) (hb entry hentry)
  have hne : b.rows ≠ [] := List.cons_ne_nil _ _
  have hread := Json.readRecord_pretty hne hnames hreads
  have hfields : b.rows.map Json.Row.field = fields := rfl
  have hmembers : Json.object (b.rows.map Json.Row.member) = b.toJson := rfl
  rw [hfields, hmembers] at hread
  rw [ofJson, hread]
  rfl

end Breakdown

/-! ## Signals -/

/-- The doubles that are numbers. -/
def Binary64.IsFinite (x : Binary64) : Prop :=
  ∃ negative mantissa exponent, x.value = .finite negative mantissa exponent

namespace Signals

def counts (s : Signals) : List Nat :=
  [s.lines, s.commentLines, s.functions, s.loops, s.dangerousCalls]

/-- The field in front of the mean length. -/
def firstRow (s : Signals) : Json.Row := .ofCount UInt64.size "lines" s.lines

/-- The fields behind the mean length. -/
def lastRows (s : Signals) : List Json.Row :=
  [.ofCount UInt64.size "comment_lines" s.commentLines,
    .ofCount UInt64.size "functions" s.functions, .ofCount UInt64.size "loops" s.loops,
    .ofCount UInt64.size "dangerous_calls" s.dangerousCalls,
    .ofTexts "dangerous_matches" s.dangerousMatches, .ofFlag "has_tests" s.hasTests,
    .ofFlag "has_error_handling" s.hasErrorHandling,
    .ofFlag "trailing_newline" s.trailingNewline]

/-- All fields, when the mean length is read as `y`. -/
def rows (s : Signals) (y : Binary64) : List Json.Row :=
  [s.firstRow] ++ .ofDouble "avg_line_len" s.averageLength y :: s.lastRows

theorem nodup_rows (s : Signals) (y : Binary64) : ((s.rows y).map Json.Row.name).Nodup := by
  have hfields : (s.rows y).map Json.Row.name = fields.map (·.1) := rfl
  rw [hfields]
  decide

variable {s : Signals}

theorem reads_firstRow (hs : ∀ n ∈ s.counts, n < UInt64.size) : s.firstRow.Reads :=
  Json.Row.reads_ofCount (Nat.le_refl _) (hs _ (by simp [counts]))

theorem reads_lastRows (hs : ∀ n ∈ s.counts, n < UInt64.size) : ∀ row ∈ s.lastRows, row.Reads := by
  simp only [counts, List.forall_mem_cons] at hs
  obtain ⟨-, hcomments, hfunctions, hloops, hcalls, -⟩ := hs
  simp only [lastRows, List.forall_mem_cons]
  exact ⟨Json.Row.reads_ofCount (Nat.le_refl _) hcomments,
    Json.Row.reads_ofCount (Nat.le_refl _) hfunctions,
    Json.Row.reads_ofCount (Nat.le_refl _) hloops, Json.Row.reads_ofCount (Nat.le_refl _) hcalls,
    Json.Row.reads_ofTexts _, Json.Row.reads_ofFlag _, Json.Row.reads_ofFlag _,
    Json.Row.reads_ofFlag _, nofun⟩

/-- Signals are read back with the mean length that is read in place of theirs. -/
theorem ofJson_pretty_of_readDouble (hs : ∀ n ∈ s.counts, n < UInt64.size) {y : Binary64}
    (hy : ∀ rest, Json.EndsValue rest →
      Json.readDouble (Json.ofDouble s.averageLength ++ rest) = .ok (y, rest)) :
    ofJson s.toJson.pretty = .ok { s with averageLength := y } := by
  have hreads : ∀ row ∈ s.rows y, row.Reads := by
    rw [rows, List.forall_mem_append, List.forall_mem_singleton, List.forall_mem_cons]
    exact ⟨reads_firstRow hs, Json.Row.reads_ofDouble hy, reads_lastRows hs⟩
  have hne : s.rows y ≠ [] := List.cons_ne_nil _ _
  have hread := Json.readRecord_pretty hne (s.nodup_rows y) hreads
  have hfields : (s.rows y).map Json.Row.field = fields := rfl
  have hmembers : Json.object ((s.rows y).map Json.Row.member) = s.toJson := rfl
  rw [hfields, hmembers] at hread
  rw [ofJson, hread]
  rfl

theorem exists_ofJson_pretty (hs : ∀ n ∈ s.counts, n < UInt64.size)
    (hfinite : s.averageLength.IsFinite) :
    ∃ y, ofJson s.toJson.pretty = .ok { s with averageLength := y } := by
  obtain ⟨negative, mantissa, exponent, hvalue⟩ := hfinite
  obtain ⟨y, hy⟩ := Json.exists_readDouble_ofDouble hvalue
  exact ⟨y, ofJson_pretty_of_readDouble hs hy⟩

theorem ofJson_pretty_error (hs : ∀ n ∈ s.counts, n < UInt64.size)
    (hinfinite : ¬ s.averageLength.IsFinite) : ofJson s.toJson.pretty = .error .mismatch := by
  -- Nothing is read in place of the mean length, so that it may as well stand for itself.
  have hfails : (Json.Row.ofDouble "avg_line_len" s.averageLength s.averageLength).Fails .mismatch :=
    Json.Row.fails_ofDouble _ (Json.readDouble_ofDouble_error fun negative mantissa exponent h =>
      hinfinite ⟨negative, mantissa, exponent, h⟩)
  have hread := Json.readRecord_pretty_error (s.nodup_rows s.averageLength)
    (List.forall_mem_singleton.2 (reads_firstRow hs)) hfails
  have hfields : (s.rows s.averageLength).map Json.Row.field = fields := rfl
  have hmembers : Json.object ((s.rows s.averageLength).map Json.Row.member) = s.toJson := rfl
  rw [rows] at hfields hmembers
  rw [hfields, hmembers] at hread
  rw [ofJson, hread]
  rfl

end Signals

/-! ## The whole format -/

/-- Reading undoes printing: for sub-scores of 32 bits, for the language of any tag, and for signals
with counts of 64 bits and a finite mean length, which is read as some double while all other signals
stay as they are. If the mean length is not finite, reading fails for a value of the wrong kind. -/
theorem ofJson_pretty_toJson :
    (∀ b : Breakdown, (∀ entry ∈ b.entries, entry.2 < UInt32.size) →
      Breakdown.ofJson b.toJson.pretty = .ok b) ∧
    (∀ tag : Text, Language.ofJson (Language.ofTag tag).toJson.pretty = .ok (Language.ofTag tag) ∧
      (Language.ofTag tag).tag = tag) ∧
    (∀ s : Signals, (∀ n ∈ s.counts, n < UInt64.size) → s.averageLength.IsFinite →
      ∃ y, Signals.ofJson s.toJson.pretty = .ok { s with averageLength := y }) ∧
    (∀ s : Signals, (∀ n ∈ s.counts, n < UInt64.size) → ¬ s.averageLength.IsFinite →
      Signals.ofJson s.toJson.pretty = .error .mismatch) :=
  ⟨Breakdown.ofJson_pretty, fun tag => ⟨Language.ofJson_pretty tag, Language.tag_ofTag tag⟩,
    fun _ => Signals.exists_ofJson_pretty, fun _ => Signals.ofJson_pretty_error⟩

/-- Counts at their ends, and matches with characters that are escaped. -/
def extremeSignals (averageLength : Binary64) : Signals where
  lines := UInt64.size - 1
  averageLength
  commentLines := 0
  functions := 1
  loops := UInt64.size - 1
  dangerousCalls := 10
  dangerousMatches := ["eval", "", "\"\\/\n\x00\x1f"]
  hasTests := true
  hasErrorHandling := false
  trailingNewline := true

theorem ofJson_pretty_toJson_extremes :
    Breakdown.ofJson (Breakdown.toJson ⟨20, UInt32.size - 1, 8, 15, 10, 4, 0⟩).pretty =
      .ok ⟨20, UInt32.size - 1, 8, 15, 10, 4, 0⟩ ∧
    (∃ y, Signals.ofJson (extremeSignals ⟨.ofNat (Binary64.infinityWord - 1)⟩).toJson.pretty =
      .ok (extremeSignals y)) ∧
    Signals.ofJson (extremeSignals .nan).toJson.pretty = .error .mismatch := by
  obtain ⟨hbreakdown, -, hfinite, hinfinite⟩ := ofJson_pretty_toJson
  have hcounts : ∀ x, ∀ n ∈ (extremeSignals x).counts, n < UInt64.size := by
    intro x
    show ∀ n ∈ [UInt64.size - 1, 0, 1, UInt64.size - 1, 10], n < UInt64.size
    decide
  have hlargest : (⟨.ofNat (Binary64.infinityWord - 1)⟩ : Binary64).value =
      .finite false (2 * Binary64.hiddenBit - 1) 971 := by
    decide +kernel
  have hnan : Binary64.nan.value = .nan := by decide +kernel
  refine ⟨hbreakdown _ (by decide), hfinite _ (hcounts _) ⟨_, _, _, hlargest⟩,
    hinfinite _ (hcounts _) ?_⟩
  rintro ⟨negative, mantissa, exponent, h⟩
  cases hnan.symm.trans h

end SourceGrade
