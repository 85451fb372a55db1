import SourceGrade.Batch

/-!
# Workers

Files can be scored by several workers at once. A dispatcher takes a permit, hands out the next file
with it and goes on; the permit comes back when the file is done. Files may be done in any order.
When all are handed out the dispatcher joins those that are done, again in any order, and the
attempts are put back into the order of discovery by their indices.
-/

namespace SourceGrade

/-- The most permits that there can be: three bits of a word are kept free. -/
def maxPermits : Nat := UInt64.size / 8 - 1

structure Dispatch where
  /-- The files not handed out, with their indices. -/
  waiting : List (Nat × Path)
  /-- Whether the dispatcher has a permit for the next file. -/
  holding : Bool := false
  running : List (Nat × Path) := []
  /-- The attempts that are done and not joined. -/
  finished : List (Nat × Attempt) := []
  /-- The attempts that are joined, in the order in which they were. -/
  joined : List (Nat × Attempt) := []

namespace Dispatch

inductive Move where
  | acquire
  | handOut
  | finish (index : Nat)
  | join (index : Nat)
deriving DecidableEq

def start (paths : List Path) : Dispatch where
  waiting := paths.zipIdx.map fun (path, index) => (index, path)

/-- The permits in use. -/
def permits (d : Dispatch) : Nat := d.running.length + if d.holding then 1 else 0

/-- Whether the dispatcher has handed out every file. -/
def isHandedOut (d : Dispatch) : Bool := d.waiting.isEmpty && !d.holding

def isFinal (d : Dispatch) : Bool := d.isHandedOut && d.running.isEmpty && d.finished.isEmpty

/-- The state behind a move, unless the move cannot be made. -/
def step? (limit : Nat) (attempt : Path → Attempt) (d : Dispatch) : Move → Option Dispatch
  | .acquire =>
    if !d.waiting.isEmpty && !d.holding && d.permits < limit then some { d with holding := true }
    else none
  | .handOut =>
    match d.waiting with
    | [] => none
    | job :: rest =>
      if d.holding then some { d with waiting := rest, holding := false, running := d.running ++ [job] }
      else none
  | .finish index =>
    match d.running.lookup index with
    | some path =>
      some { d with
        running := d.running.filter (·.1 ≠ index)
        finished := d.finished ++ [(index, attempt path)] }
    | none => none
  | .join index =>
    if d.isHandedOut then
      match d.finished.lookup index with
      | some result =>
        some { d with
          finished := d.finished.filter (·.1 ≠ index)
          joined := d.joined ++ [(index, result)] }
      | none => none
    else none

/-- The state behind several moves, unless one of them cannot be made. -/
def follow? (limit : Nat) (attempt : Path → Attempt) (d : Dispatch) : List Move → Option Dispatch
  | [] => some d
  | move :: rest => (d.step? limit attempt move).bind (follow? limit attempt · rest)

/-- Hands out files as long as there are permits, then lets the first running one finish, and joins
in the order in which they finished. -/
def preferred? (limit : Nat) (d : Dispatch) : Option Move :=
  if d.holding then some .handOut
  else if !d.waiting.isEmpty && d.permits < limit then some .acquire
  else
    match d.running with
    | (index, _) :: _ => some (.finish index)
    | [] => d.finished.head?.map fun (index, _) => .join index

def run (limit : Nat) (attempt : Path → Attempt) : (fuel : Nat) → Dispatch → Dispatch
  | 0, d => d
  | fuel + 1, d =>
    match (d.preferred? limit).bind (d.step? limit attempt) with
    | some next => run limit attempt fuel next
    | none => d

/-- The joined attempts in the order of discovery. -/
def attempts (d : Dispatch) : List Attempt :=
  (d.joined.mergeSort fun x y => decide (x.1 ≤ y.1)).map Prod.snd

end Dispatch

namespace Batch

/-- The attempts at all files, up to `limit` of them at the same time. Every file takes four moves. -/
def attemptConcurrently (b : Batch) (limit : Nat) (paths : List Path) : List Attempt :=
  ((Dispatch.start paths).run limit b.attempt (4 * paths.length)).attempts

/-- What scoring the files under a root comes to when the dispatcher and the workers make the given
moves, unless these cannot be made or leave something to do. -/
def runConcurrently? (b : Batch) (limit : Nat) (moves : List Dispatch.Move) (root : Path) :
    Option (Except Fault Outcome) :=
  match b.discover root with
  | .error fault => some (.error fault)
  | .ok paths =>
    match (Dispatch.start paths).follow? limit b.attempt moves with
    | some last => if last.isFinal then some (.ok (.ofAttempts last.attempts)) else none
    | none => none

end Batch

end SourceGrade
