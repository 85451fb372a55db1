import SourceGrade.Signals

/-!
# Sub-scores

Seven sub-scores computed from signals. Loops cost maintainability and declarations add to it, so
that it may pass 20 and the total may pass 100.
-/

namespace SourceGrade

structure Breakdown where
  readability : Nat
  maintainability : Nat
  robustness : Nat
  performance : Nat
  security : Nat
  testability : Nat
  consistency : Nat
deriving DecidableEq

namespace Breakdown

/-- The sub-scores with their names, in the order of reports. -/
def entries (b : Breakdown) : List (Text × Nat) :=
  [("readability", b.readability), ("maintainability", b.maintainability),
    ("robustness", b.robustness), ("performance", b.performance), ("security", b.security),
    ("testability", b.testability), ("consistency", b.consistency)]

def total (b : Breakdown) : Nat := (b.entries.map Prod.snd).foldr (· + ·) 0

/-- A count of 64 bits read as a signed word. -/
def signedCount (n : Nat) : Int := Int.bmod n UInt64.size

/-- A sub-score is never negative and fits 32 bits. -/
def clamp (i : Int) : Nat := min i.toNat (UInt32.size - 1)

/-- One point for every five characters of the mean line length. -/
def longLinePenalty (s : Signals) : Int := (Binary64.div s.averageLength (.ofNat 5)).truncate

/-- One point for every two lines by which the comments miss a tenth of all lines. -/
def commentGapPenalty (s : Signals) : Int :=
  let wanted := Binary64.mul (.ofNat s.lines) (.ofRatio false 1 10)
  (Binary64.div (Binary64.sub (.ofNat s.commentLines) wanted).abs (.ofNat 2)).truncate

def ofSignals (s : Signals) : Breakdown where
  readability := clamp (20 - longLinePenalty s - commentGapPenalty s)
  maintainability := clamp (20 - 2 * signedCount s.loops + signedCount s.functions)
  robustness := if s.hasErrorHandling then 15 else 8
  performance := clamp (15 - signedCount (s.lines / 200))
  security := clamp (10 - 2 * signedCount s.dangerousCalls)
  testability := if s.hasTests then 10 else 4
  consistency := if s.trailingNewline then 10 else 7

end Breakdown

end SourceGrade
