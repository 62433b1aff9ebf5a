import OffChain.Classification.Worker

/-!
# What a worker does to the calls it takes

`examineAll` examines some calls one after the other and lists the outcomes; `Stats.ofOutcomes`
counts outcomes by kind.  A worker that takes some calls ends up with exactly these
(`Worker.takeAll_eq`), and so does one that works a queue empty without being stopped
(`Worker.drain_value`).
-/

namespace OffChain.Classification

/-! ### Outcomes -/

namespace Outcome

/-- Whether the transaction was passed over. -/
def isSkipped : Outcome → Bool
  | noCall => true
  | untracked => true
  | written _ => false
  | unwritten _ _ => false

/-- Whether the transaction was classified and written. -/
def isWritten : Outcome → Bool
  | written _ => true
  | _ => false

/-- Whether the transaction was classified but not written. -/
def isUnwritten : Outcome → Bool
  | unwritten _ _ => true
  | _ => false

end Outcome

/-- Examines some calls, first one first; gives the archive that is left and the outcomes. -/
def examineAll : Archive → List Transaction → Archive × List Outcome
  | archive, [] => (archive, [])
  | archive, trx :: rest =>
    let (next, outcome) := (examine archive trx).value
    let (last, outcomes) := examineAll next rest
    (last, outcome :: outcomes)

theorem length_examineAll (archive : Archive) (calls : List Transaction) :
    (examineAll archive calls).2.length = calls.length := by
  induction calls generalizing archive with
  | nil => rfl
  | cons trx rest ih => exact congrArg Nat.succ (ih (examine archive trx).value.1)

/-! ### Counters -/

namespace Stats

/-- Outcomes counted by kind. -/
def ofOutcomes (outcomes : List Outcome) : Stats :=
  { received := outcomes.length
    classified := outcomes.countP Outcome.isWritten
    skipped := outcomes.countP Outcome.isSkipped
    failed := outcomes.countP Outcome.isUnwritten }

/-- Counting goes on from where it stands. -/
theorem foldl_count (outcomes : List Outcome) (s : Stats) :
    outcomes.foldl count s =
      { received := s.received + outcomes.length
        classified := s.classified + outcomes.countP Outcome.isWritten
        skipped := s.skipped + outcomes.countP Outcome.isSkipped
        failed := s.failed + outcomes.countP Outcome.isUnwritten } := by
  induction outcomes generalizing s with
  | nil => rfl
  | cons outcome outcomes ih =>
    rw [List.foldl_cons, ih]
    cases outcome <;>
      simp [count, List.countP_cons, Outcome.isWritten, Outcome.isSkipped, Outcome.isUnwritten] <;>
      omega

theorem foldl_count_zero (outcomes : List Outcome) :
    outcomes.foldl count zero = ofOutcomes outcomes := by
  rw [foldl_count]
  simp [zero, ofOutcomes]

/-- Every call that was received has one outcome. -/
theorem received_ofOutcomes (outcomes : List Outcome) :
    (ofOutcomes outcomes).received = (ofOutcomes outcomes).classified
      + (ofOutcomes outcomes).skipped + (ofOutcomes outcomes).failed := by
  unfold ofOutcomes
  dsimp only
  induction outcomes with
  | nil => rfl
  | cons outcome outcomes ih =>
    cases outcome <;>
      simp [List.countP_cons, Outcome.isWritten, Outcome.isSkipped, Outcome.isUnwritten] <;>
      omega

end Stats

/-! ### Taking calls -/

namespace Worker

/-- A worker that took some calls, first one first. -/
def takeAll (w : Worker) (calls : List Transaction) : Worker :=
  calls.foldl (fun w trx => (w.take trx).value) w

theorem takeAll_concat (w : Worker) (calls : List Transaction) (trx : Transaction) :
    w.takeAll (calls ++ [trx]) = ((w.takeAll calls).take trx).value := by
  rw [takeAll, List.foldl_append]
  rfl

theorem takeAll_eq_foldl (archive : Archive) (stats : Stats) (calls : List Transaction) :
    takeAll ⟨archive, stats⟩ calls =
      ⟨(examineAll archive calls).1, (examineAll archive calls).2.foldl Stats.count stats⟩ := by
  induction calls generalizing archive stats with
  | nil => rfl
  | cons trx rest ih =>
    show takeAll ⟨(examine archive trx).value.1, stats.count (examine archive trx).value.2⟩ rest = _
    rw [ih]
    rfl

/-- What a worker is after some calls: the archive and the counters of examining them in turn. -/
theorem takeAll_eq (archive : Archive) (calls : List Transaction) :
    takeAll ⟨archive, Stats.zero⟩ calls =
      ⟨(examineAll archive calls).1, Stats.ofOutcomes (examineAll archive calls).2⟩ := by
  rw [takeAll_eq_foldl, Stats.foldl_count_zero]

/-- Without an order to stop, the queue is worked empty. -/
theorem drain_value (w : Worker) (calls : List Transaction) :
    (drain none w calls).value = w.takeAll calls := by
  induction calls generalizing w with
  | nil => rfl
  | cons trx rest ih => exact ih (w.take trx).value

theorem run_value (archive : Archive) (calls : List Transaction) :
    (run archive calls none).value =
      ((examineAll archive calls).1, Stats.ofOutcomes (examineAll archive calls).2) := by
  have hdrain := drain_value ⟨archive, Stats.zero⟩ calls
  rw [takeAll_eq] at hdrain
  unfold run
  simp only [Logged.value_bind, Logged.value_pure, hdrain]

end Worker

end OffChain.Classification
