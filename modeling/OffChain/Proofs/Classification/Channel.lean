import OffChain.Classification.Channel
import OffChain.Proofs.Classification.Worker

/-!
# Every schedule works through a prefix

However feed, worker and the order to stop take turns, the calls that the worker has taken, those
that the channel holds and those that are still to be sent are the calls of the feed, in their order
(`Accounts.calls_eq`), and the worker is what taking the first of these makes of it.

* `worker_processes_prefix`: a worker that has ended examined the calls of a prefix of the feed,
  each once and in order, and counted their outcomes; if it was never told to stop, the prefix is
  the whole feed.
* `Channel.canEnd_of_capacity_pos`: a worker that has not ended can still come to its end.
-/

namespace OffChain.Classification

namespace Channel

/-! ### The calls that are taken -/

/-- The call that the worker takes on a move, if it takes one. -/
def takes? (c : Channel) : Move → Option Transaction
  | .work => if c.hasEnded || c.isStopSet then none else c.held.head?
  | .send => none
  | .close => none
  | .stop => none

/-- The calls that the worker takes during some moves, first one first. -/
def taken (c : Channel) : List Move → List Transaction
  | [] => []
  | move :: rest =>
    (c.takes? move).toList ++ ((c.step? move).map fun next => next.taken rest).getD []

variable {c next : Channel} {move : Move} {moves : List Move}

theorem taken_cons (hstep : c.step? move = some next) (rest : List Move) :
    c.taken (move :: rest) = (c.takes? move).toList ++ next.taken rest := by
  rw [taken, hstep]
  rfl

/-! ### Single moves -/

/-- Everything that a move can do. -/
inductive Does (c : Channel) : Move → Channel → Prop
  | send {trx : Transaction} {rest : List Transaction} (hfeed : c.feed = trx :: rest)
      (hopen : c.isClosed = false) (hworking : c.hasEnded = false)
      (hroom : c.held.length < c.capacity) :
      Does c .send { c with feed := rest, held := c.held ++ [trx] }
  | close (hopen : c.isClosed = false)
      (hdone : c.feed = [] ∨ c.isStopSet = true ∨ c.hasEnded = true) :
      Does c .close { c with isClosed := true }
  | stop : Does c .stop { c with isStopSet := true }
  | take {trx : Transaction} {rest : List Transaction} (hworking : c.hasEnded = false)
      (hgoing : c.isStopSet = false) (hheld : c.held = trx :: rest) :
      Does c .work { c with held := rest, worker := (c.worker.take trx).value }
  | finish (hworking : c.hasEnded = false)
      (hdone : c.isStopSet = true ∨ c.isClosed = true ∧ c.held = []) :
      Does c .work { c with hasEnded := true }

theorem does_of_send? (h : c.send? = some next) : c.Does .send next := by
  unfold send? at h
  cases hfeed : c.feed with
  | nil =>
    rw [hfeed] at h
    exact absurd h (Option.some_ne_none next).symm
  | cons trx rest =>
    rw [hfeed] at h
    dsimp only at h
    split at h
    · exact absurd h (Option.some_ne_none next).symm
    · rename_i hfree
      obtain rfl := Option.some.inj h
      simp only [Bool.or_eq_true, decide_eq_true_eq, not_or, Bool.not_eq_true, Nat.not_le] at hfree
      exact .send hfeed hfree.1.1 hfree.1.2 hfree.2

theorem does_of_close? (h : c.close? = some next) : c.Does .close next := by
  unfold close? at h
  split at h
  · exact absurd h (Option.some_ne_none next).symm
  · rename_i hopen
    split at h
    · rename_i hdone
      obtain rfl := Option.some.inj h
      rw [Bool.or_eq_true, Bool.or_eq_true, List.isEmpty_iff, or_assoc] at hdone
      exact .close (Bool.not_eq_true _ ▸ hopen) hdone
    · exact absurd h (Option.some_ne_none next).symm

theorem does_of_work? (h : c.work? = some next) : c.Does .work next := by
  unfold work? at h
  split at h
  · exact absurd h (Option.some_ne_none next).symm
  rename_i hends
  have hworking : c.hasEnded = false := Bool.not_eq_true _ ▸ hends
  split at h
  · rename_i hstop
    obtain rfl := Option.some.inj h
    exact .finish hworking (Or.inl hstop)
  rename_i hstop
  have hgoing : c.isStopSet = false := Bool.not_eq_true _ ▸ hstop
  split at h
  · rename_i trx rest hheld
    obtain rfl := Option.some.inj h
    exact .take hworking hgoing hheld
  · rename_i hheld
    split at h
    · rename_i hclosed
      obtain rfl := Option.some.inj h
      exact .finish hworking (Or.inr ⟨hclosed, hheld⟩)
    · exact absurd h (Option.some_ne_none next).symm

theorem does_of_step? (h : c.step? move = some next) : c.Does move next := by
  cases move with
  | send => exact does_of_send? h
  | close => exact does_of_close? h
  | stop =>
    obtain rfl := Option.some.inj h
    exact .stop
  | work => exact does_of_work? h

/-- What a move can do is possible. -/
theorem step?_of_does (h : c.Does move next) : c.step? move = some next := by
  cases h with
  | send hfeed hopen hworking hroom =>
    show c.send? = _
    simp [send?, hfeed, hopen, hworking, hroom]
  | close hopen hdone =>
    have hmay : (c.feed.isEmpty || c.isStopSet || c.hasEnded) = true := by
      rw [Bool.or_eq_true, Bool.or_eq_true, List.isEmpty_iff, or_assoc]
      exact hdone
    show c.close? = _
    simp [close?, hopen, hmay]
  | stop => rfl
  | take hworking hgoing hheld =>
    show c.work? = _
    simp [work?, hworking, hgoing, hheld]
  | finish hworking hdone =>
    show c.work? = _
    rcases hdone with hstop | ⟨hclosed, hheld⟩
    · simp [work?, hworking, hstop]
    · simp [work?, hworking, hclosed, hheld]

/-! ### What moves keep -/

/-- How a channel and its worker stand to the calls of the feed and those that were taken. -/
structure Accounts (archive : Archive) (calls : List Transaction) (c : Channel)
    (done : List Transaction) : Prop where
  /-- Nothing is lost, nothing is there twice, and the order stays. -/
  calls_eq : done ++ c.held ++ c.feed = calls
  /-- The worker did just what was to be done to the calls that it took. -/
  worker_eq : c.worker = Worker.takeAll ⟨archive, Stats.zero⟩ done
  /-- Only the end of the feed and the order to stop close the channel. -/
  closed : c.isClosed = true → c.isStopSet = true ∨ c.feed = []
  /-- Only the end of the calls and the order to stop end the worker. -/
  ended : c.hasEnded = true → c.isStopSet = true ∨ c.held = [] ∧ c.feed = []

theorem accounts_start (capacity : Nat) (archive : Archive) (calls : List Transaction) :
    (start capacity archive calls).Accounts archive calls [] where
  calls_eq := rfl
  worker_eq := rfl
  closed := fun h => Bool.noConfusion h
  ended := fun h => Bool.noConfusion h

variable {archive : Archive} {calls done : List Transaction}

/-- A worker that ends takes nothing. -/
theorem takes?_of_done (hdone : c.isStopSet = true ∨ c.isClosed = true ∧ c.held = []) :
    c.takes? .work = none := by
  unfold takes?
  dsimp only
  rcases hdone with hstop | ⟨-, hheld⟩
  · rw [hstop, Bool.or_true, if_pos rfl]
  · rw [hheld, List.head?_nil, ite_self]

/-- **Step**: a move keeps the accounts, with the call that it takes. -/
theorem Does.accounts (hdoes : c.Does move next) (h : c.Accounts archive calls done) :
    next.Accounts archive calls (done ++ (c.takes? move).toList) := by
  cases hdoes with
  | send hfeed hopen hworking hroom =>
    show Accounts archive calls _ (done ++ [])
    rw [List.append_nil]
    refine { h with calls_eq := ?_, closed := ?_, ended := ?_ }
    · rw [← h.calls_eq, hfeed]
      simp only [List.append_assoc, List.singleton_append]
    · intro hclosed
      exact absurd hclosed (Bool.eq_false_iff.mp hopen)
    · intro hended
      exact absurd hended (Bool.eq_false_iff.mp hworking)
  | close hopen hdone =>
    show Accounts archive calls _ (done ++ [])
    rw [List.append_nil]
    refine { h with closed := ?_ }
    rintro -
    rcases hdone with hfeed | hstop | hended
    · exact Or.inr hfeed
    · exact Or.inl hstop
    · -- a worker that ended without being stopped had come to the end of the feed
      exact (h.ended hended).imp id And.right
  | stop =>
    show Accounts archive calls _ (done ++ [])
    rw [List.append_nil]
    exact { h with closed := fun _ => Or.inl rfl, ended := fun _ => Or.inl rfl }
  | take hworking hgoing hheld =>
    have htakes : c.takes? .work = c.held.head? := by
      rw [takes?, hworking, hgoing]
      rfl
    rw [htakes, hheld, List.head?_cons, Option.toList_some]
    refine { h with calls_eq := ?_, worker_eq := ?_, ended := ?_ }
    · rw [← h.calls_eq, hheld]
      simp only [List.append_assoc, List.singleton_append]
    · rw [Worker.takeAll_concat, ← h.worker_eq]
    · intro hended
      exact absurd hended (Bool.eq_false_iff.mp hworking)
  | finish hworking hdone =>
    rw [takes?_of_done hdone, Option.toList_none, List.append_nil]
    refine { h with ended := ?_ }
    rintro -
    rcases hdone with hstop | ⟨hclosed, hheld⟩
    · exact Or.inl hstop
    · -- the channel is empty now, and closing it was the end of the feed
      exact (h.closed hclosed).imp id fun hfeed => ⟨hheld, hfeed⟩

/-- **Invariant**: any moves keep the accounts, with the calls that they take. -/
theorem Accounts.run (h : c.Accounts archive calls done) {last : Channel}
    (hrun : c.run? moves = some last) :
    last.Accounts archive calls (done ++ c.taken moves) := by
  induction moves generalizing c done with
  | nil =>
    obtain rfl := Option.some.inj hrun
    rw [taken, List.append_nil]
    exact h
  | cons move rest ih =>
    rw [run?, Option.bind_eq_some_iff] at hrun
    obtain ⟨next, hstep, hrest⟩ := hrun
    rw [taken_cons hstep, ← List.append_assoc]
    exact ih ((does_of_step? hstep).accounts h) hrest

/-- Only the order to stop tells the worker to stop. -/
theorem isStopSet_of_run? {last : Channel} (hrun : c.run? moves = some last)
    (hmoves : .stop ∉ moves) : last.isStopSet = c.isStopSet := by
  induction moves generalizing c with
  | nil =>
    obtain rfl := Option.some.inj hrun
    rfl
  | cons move rest ih =>
    rw [run?, Option.bind_eq_some_iff] at hrun
    obtain ⟨next, hstep, hrest⟩ := hrun
    rw [List.mem_cons, not_or] at hmoves
    rw [ih hrest hmoves.2]
    cases does_of_step? hstep with
    | stop => exact absurd rfl hmoves.1
    | send | close | take | finish => rfl

/-- A call that is taken does not end the worker, whatever comes out of it. -/
theorem hasEnded_of_takes? {trx : Transaction} (htakes : c.takes? move = some trx)
    (hstep : c.step? move = some next) : next.hasEnded = false := by
  cases does_of_step? hstep with
  | take hworking hgoing hheld => exact hworking
  | finish hworking hdone =>
    rw [takes?_of_done hdone] at htakes
    exact absurd htakes (Option.some_ne_none trx).symm
  | send | close | stop => exact absurd htakes (Option.some_ne_none trx).symm

/-! ### Coming to the end -/

theorem capacity_of_run? {last : Channel} (hrun : c.run? moves = some last) :
    last.capacity = c.capacity := by
  induction moves generalizing c with
  | nil =>
    obtain rfl := Option.some.inj hrun
    rfl
  | cons move rest ih =>
    rw [run?, Option.bind_eq_some_iff] at hrun
    obtain ⟨next, hstep, hrest⟩ := hrun
    rw [ih hrest]
    cases does_of_step? hstep with
    | send | close | stop | take | finish => rfl

/-- There are moves to the end of the worker, without an order to stop. -/
def CanEnd (c : Channel) : Prop :=
  ∃ moves last, .stop ∉ moves ∧ c.run? moves = some last ∧ last.hasEnded = true

theorem canEnd_of_hasEnded (h : c.hasEnded = true) : c.CanEnd :=
  ⟨[], c, List.not_mem_nil, rfl, h⟩

theorem CanEnd.of_does (h : next.CanEnd) (hdoes : c.Does move next) (hmove : move ≠ .stop) :
    c.CanEnd := by
  obtain ⟨moves, last, hmoves, hrun, hended⟩ := h
  refine ⟨move :: moves, last, ?_, ?_, hended⟩
  · rw [List.mem_cons, not_or]
    exact ⟨hmove.symm, hmoves⟩
  · rw [run?, step?_of_does hdoes]
    exact hrun

theorem canEnd_of_done (hdone : c.isStopSet = true ∨ c.isClosed = true ∧ c.held = []) :
    c.CanEnd := by
  cases hworking : c.hasEnded with
  | true => exact canEnd_of_hasEnded hworking
  | false => exact (canEnd_of_hasEnded rfl).of_does (.finish hworking hdone) (by decide)

/-- **Progress**: feed and worker never wait for each other for ever. -/
theorem canEnd_of_capacity_pos (c : Channel) (hcapacity : 0 < c.capacity) : c.CanEnd := by
  -- By induction on the moves that the calls still need, two for each that is to be sent.
  induction hleft : 2 * c.feed.length + c.held.length using Nat.strongRecOn generalizing c with
  | _ left ih =>
  cases hworking : c.hasEnded with
  | true => exact canEnd_of_hasEnded hworking
  | false =>
  cases hgoing : c.isStopSet with
  | true => exact canEnd_of_done (Or.inl hgoing)
  | false =>
  cases hheld : c.held with
  | cons trx rest =>
    apply CanEnd.of_does _ (.take hworking hgoing hheld) (by decide)
    refine ih _ ?_ _ hcapacity rfl
    rw [← hleft, hheld, List.length_cons]
    exact Nat.lt_succ_self _
  | nil =>
  cases hopen : c.isClosed with
  | true => exact canEnd_of_done (Or.inr ⟨hopen, hheld⟩)
  | false =>
  cases hfeed : c.feed with
  | cons trx rest =>
    have hroom : c.held.length < c.capacity := by
      rw [hheld]
      exact hcapacity
    apply CanEnd.of_does _ (.send hfeed hopen hworking hroom) (by decide)
    refine ih _ ?_ _ hcapacity rfl
    rw [← hleft, hfeed, hheld]
    simp only [List.length_cons, List.length_append, List.length_nil]
    omega
  | nil =>
    have hclosed : ({ c with isClosed := true } : Channel).CanEnd :=
      canEnd_of_done (Or.inr ⟨rfl, hheld⟩)
    exact hclosed.of_does (.close hopen (Or.inl hfeed)) (by decide)

end Channel

open Channel

/-- **Every schedule**: a worker that has ended examined a prefix of the feed, once and in order,
and counted the outcomes; without an order to stop, the prefix is the whole feed, and neither the
capacity of the channel nor the order of the moves matters.  A worker can always come to its end,
and no outcome brings it there. -/
theorem worker_processes_prefix (capacity : Nat) (archive : Archive) (calls : List Transaction)
    (moves : List Move) {last : Channel}
    (hrun : (start capacity archive calls).run? moves = some last) :
    (last.hasEnded = true →
      (start capacity archive calls).taken moves <+: calls ∧
      last.worker.archive
        = (examineAll archive ((start capacity archive calls).taken moves)).1 ∧
      last.worker.stats.received = ((start capacity archive calls).taken moves).length ∧
      last.worker.stats.classified
        = (examineAll archive ((start capacity archive calls).taken moves)).2.countP
          Outcome.isWritten ∧
      last.worker.stats.skipped
        = (examineAll archive ((start capacity archive calls).taken moves)).2.countP
          Outcome.isSkipped ∧
      last.worker.stats.failed
        = (examineAll archive ((start capacity archive calls).taken moves)).2.countP
          Outcome.isUnwritten ∧
      last.worker.stats.received = last.worker.stats.classified + last.worker.stats.skipped
        + last.worker.stats.failed ∧
      (.stop ∉ moves → (start capacity archive calls).taken moves = calls ∧
        (last.worker.archive, last.worker.stats) = (Worker.run archive calls none).value)) ∧
    (0 < capacity → last.CanEnd) ∧
    ∀ (c next : Channel) (trx : Transaction),
      c.takes? .work = some trx → c.step? .work = some next → next.hasEnded = false := by
  have haccounts := (accounts_start capacity archive calls).run hrun
  rw [List.nil_append] at haccounts
  have hworker := haccounts.worker_eq
  rw [Worker.takeAll_eq] at hworker
  have hcounts := Stats.received_ofOutcomes
    (examineAll archive ((start capacity archive calls).taken moves)).2
  refine ⟨fun hended => ?_, fun hcapacity => ?_, fun c next trx => hasEnded_of_takes?⟩
  · rw [hworker]
    refine ⟨?_, rfl, length_examineAll _ _, rfl, rfl, rfl, hcounts, fun hmoves => ?_⟩
    · exact ⟨last.held ++ last.feed, by rw [← List.append_assoc, haccounts.calls_eq]⟩
    · have hgoing : last.isStopSet = false := isStopSet_of_run? hrun hmoves
      obtain ⟨hheld, hfeed⟩ := (haccounts.ended hended).resolve_left (Bool.eq_false_iff.mp hgoing)
      have hall : (start capacity archive calls).taken moves = calls := by
        have hcalls := haccounts.calls_eq
        rw [hheld, hfeed, List.append_nil, List.append_nil] at hcalls
        exact hcalls
      rw [hall, Worker.run_value]
      exact ⟨rfl, rfl⟩
  · apply canEnd_of_capacity_pos
    rw [capacity_of_run? hrun]
    exact hcapacity

/-- A transaction that creates a contract. -/
def creation (block : UInt64) : Transaction :=
  { hash := FixedBytes.zero
    blockNumber := some block
    sender := FixedBytes.zero
    recipient := none
    input := []
    targetType := none
    targetCall := none
    isErc20Call := false }

/-- Two calls go through a channel that holds one; the feed closes it before the worker has taken
the second one. -/
theorem worker_processes_two_of_two :
    ∃ last, (start 1 (.ofStore .standard .empty fun _ => ⟨[], [], .error .offline⟩)
        [creation 1, creation 2]).run? [.send, .work, .send, .close, .work, .work] = some last ∧
      last.hasEnded = true ∧ last.worker.stats.received = 2 ∧ last.worker.stats.skipped = 2 := by
  refine ⟨_, rfl, rfl, ?_⟩
  obtain ⟨hends, -, -⟩ :=
    worker_processes_prefix 1 (.ofStore .standard .empty fun _ => ⟨[], [], .error .offline⟩)
      [creation 1, creation 2] [.send, .work, .send, .close, .work, .work] rfl
  obtain ⟨-, -, hreceived, -, hskipped, -, -, hall⟩ := hends rfl
  obtain ⟨htaken, -⟩ := hall (by decide)
  rw [htaken] at hreceived hskipped
  exact ⟨hreceived, hskipped⟩

end OffChain.Classification
