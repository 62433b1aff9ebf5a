import OffChain.Classification.Examination

/-!
# The worker

One worker takes the calls off a queue, one after the other and in the order in which they were put
in, and examines each.  Before it takes a call it looks whether it is to stop; a call that it has
taken is always finished.  It ends when it is to stop or when the queue is closed and empty.
-/

namespace OffChain.Classification

/-! ### Counters -/

/-- What a worker did. -/
structure Stats where
  /-- Transactions that were taken. -/
  received : Nat
  /-- Transactions that were classified and written. -/
  classified : Nat
  /-- Transactions that were passed over. -/
  skipped : Nat
  /-- Transactions that were classified but could not be written. -/
  failed : Nat
deriving DecidableEq, Repr

namespace Stats

/-- The counters of a worker that did nothing yet. -/
def zero : Stats :=
  ⟨0, 0, 0, 0⟩

/-- The counters after one more outcome. -/
def count (s : Stats) : Outcome → Stats
  | .noCall => { s with received := s.received + 1, skipped := s.skipped + 1 }
  | .untracked => { s with received := s.received + 1, skipped := s.skipped + 1 }
  | .written _ => { s with received := s.received + 1, classified := s.classified + 1 }
  | .unwritten _ _ => { s with received := s.received + 1, failed := s.failed + 1 }

/-- How often a classification was to be written. -/
def attempts (s : Stats) : Nat :=
  s.classified + s.failed

/-- The counters as the fields of an event. -/
def fields (s : Stats) : List (String × FieldValue) :=
  [("received", .shown (Decimal.text s.received)),
    ("classified", .shown (Decimal.text s.classified)),
    ("skipped", .shown (Decimal.text s.skipped)), ("failed", .shown (Decimal.text s.failed))]

end Stats

/-! ### Running -/

/-- A worker at work. -/
structure Worker where
  /-- The archive that it works on. -/
  archive : Archive
  /-- What it did so far. -/
  stats : Stats

namespace Worker

/-- Takes a call and finishes it. -/
def take (w : Worker) (trx : Transaction) : Logged Worker := do
  Logged.report .worker .debug "analyzing transaction call" [hashField trx]
  let (archive, outcome) ← examine w.archive trx
  pure ⟨archive, w.stats.count outcome⟩

/-- Whether the worker is to stop, if it is told so during the `n`-th attempt to write. -/
def isToStop (w : Worker) (stopAfter : Option Nat) : Bool :=
  stopAfter.any fun n => n ≤ w.stats.attempts

/-- Works through the calls that are put into the queue before it is closed. -/
def drain (stopAfter : Option Nat) : Worker → List Transaction → Logged Worker
  | w, [] => do
    if !w.isToStop stopAfter then
      Logged.report .worker .debug "contract calls channel closed" []
    pure w
  | w, trx :: rest =>
    if w.isToStop stopAfter then pure w
    else do
      let w ← w.take trx
      drain stopAfter w rest

/-- The whole run of a worker. -/
def run (archive : Archive) (calls : List Transaction) (stopAfter : Option Nat) :
    Logged (Archive × Stats) := do
  Logged.report .worker .info "contract calls queue processing is running" []
  let w ← drain stopAfter ⟨archive, Stats.zero⟩ calls
  Logged.report .worker .info "contract calls queue processing is closing" w.stats.fields
  pure (w.archive, w.stats)

end Worker

end OffChain.Classification
