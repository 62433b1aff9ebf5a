import OffChain.Classification.Flight
import OffChain.Proofs.Classification.Channel
import OffChain.Proofs.Classification.Cut
import OffChain.Proofs.Classification.Effects

/-!
# The order to stop cuts a run after the call in flight

A worker that finishes a call some time after it received it is, to all that can be seen in the
end, one that finishes it at once (`Flight.settled`), so the accounts of the channel hold here too.
What is new is how far the worker comes: as long as it has not been told to stop it attempted to
write fewer than `n` times, and when it is told it has just received the call with the `n`-th
attempt (`Flight.OnCourse`).

* `Flight.OnCourse.isCut`: a worker that has ended received just the calls of the cut.
* `Flight.length_add_movesLeft_le`, `Flight.exists_move`: every run comes to that end.
* `stop_cuts_after_attempt`: what the worker leaves behind then, however feed and worker took turns
  and whatever the channel can hold.
-/

namespace OffChain.Classification

variable {n : Nat} {archive : Archive} {calls : List Transaction}

namespace Flight

open Channel

variable {f next last : Flight} {move : Move} {moves : List Move}

/-! ### Single moves -/

/-- Everything that a move can do. -/
inductive Does (n : Nat) (f : Flight) : Move → Flight → Prop
  | send {c : Channel} (hsend : f.channel.Does .send c) : Does n f .send { f with channel := c }
  | close {c : Channel} (hclose : f.channel.Does .close c) :
      Does n f .close { f with channel := c }
  | stop (hdue : f.isStopDue n = true) :
      Does n f .stop { f with channel := { f.channel with isStopSet := true } }
  | finish {trx : Transaction} (hcall : f.call = some trx) (hdue : f.isStopDue n = false) :
      Does n f .work
        { channel := { f.channel with worker := (f.channel.worker.take trx).value }
          finished := f.finished ++ [trx]
          call := none }
  | receive {trx : Transaction} {rest : List Transaction} (hcall : f.call = none)
      (hworking : f.channel.hasEnded = false) (hgoing : f.channel.isStopSet = false)
      (hheld : f.channel.held = trx :: rest) :
      Does n f .work { f with channel := { f.channel with held := rest }, call := some trx }
  | leave (hcall : f.call = none) (hworking : f.channel.hasEnded = false)
      (hdone : f.channel.isStopSet = true ∨ f.channel.isClosed = true ∧ f.channel.held = []) :
      Does n f .work { f with channel := { f.channel with hasEnded := true } }

theorem does_of_stop? (h : f.stop? n = some next) : f.Does n .stop next := by
  unfold stop? at h
  split at h
  · rename_i hdue
    obtain rfl := Option.some.inj h
    exact .stop hdue
  · cases h

theorem does_of_work? (h : f.work? n = some next) : f.Does n .work next := by
  unfold work? at h
  split at h
  · rename_i trx hcall
    split at h
    · cases h
    · rename_i hdue
      obtain rfl := Option.some.inj h
      exact .finish hcall (Bool.eq_false_iff.mpr hdue)
  rename_i hcall
  split at h
  · cases h
  rename_i hends
  have hworking : f.channel.hasEnded = false := Bool.eq_false_iff.mpr hends
  split at h
  · rename_i hstop
    obtain rfl := Option.some.inj h
    exact .leave hcall hworking (Or.inl hstop)
  rename_i hstop
  have hgoing : f.channel.isStopSet = false := Bool.eq_false_iff.mpr hstop
  split at h
  · rename_i trx rest hheld
    obtain rfl := Option.some.inj h
    exact .receive hcall hworking hgoing hheld
  · rename_i hheld
    split at h
    · rename_i hclosed
      obtain rfl := Option.some.inj h
      exact .leave hcall hworking (Or.inr ⟨hclosed, hheld⟩)
    · cases h

theorem does_of_step? (h : f.step? n move = some next) : f.Does n move next := by
  cases move with
  | send =>
    obtain ⟨c, hsend, rfl⟩ := Option.map_eq_some_iff.mp h
    exact .send (does_of_send? hsend)
  | close =>
    obtain ⟨c, hclose, rfl⟩ := Option.map_eq_some_iff.mp h
    exact .close (does_of_close? hclose)
  | stop => exact does_of_stop? h
  | work => exact does_of_work? h

/-! ### Calls finished at once -/

/-- The channel as if the call in flight were finished. -/
def settled (f : Flight) : Channel :=
  { f.channel with
    worker := f.call.elim f.channel.worker fun trx => (f.channel.worker.take trx).value }

/-- **Atomicity**: a worker that receives a call does what one does that finishes it at once, and
there is nothing more to see when it finishes it. -/
theorem Does.settled (hdoes : f.Does n move next) :
    f.settled.Does move next.settled ∧
        next.received = f.received ++ (f.settled.takes? move).toList ∨
      next.settled = f.settled ∧ next.received = f.received := by
  cases hdoes with
  | send hsend =>
    cases hsend with
    | send hfeed hopen hworking hroom =>
      exact Or.inl ⟨Channel.Does.send (c := f.settled) hfeed hopen hworking hroom,
        (List.append_nil _).symm⟩
  | close hclose =>
    cases hclose with
    | close hopen hdone =>
      exact Or.inl ⟨Channel.Does.close (c := f.settled) hopen hdone, (List.append_nil _).symm⟩
  | stop hdue => exact Or.inl ⟨Channel.Does.stop, (List.append_nil _).symm⟩
  | finish hcall hdue =>
    refine Or.inr ⟨?_, ?_⟩
    · rw [Flight.settled, Flight.settled, hcall]
      rfl
    · rw [received, received, hcall]
      exact List.append_nil _
  | receive hcall hworking hgoing hheld =>
    -- taking and finishing at once is what this comes to when it is settled
    have htakes : f.settled.takes? .work = f.channel.held.head? := by
      rw [takes?, settled, hworking, hgoing]
      rfl
    have hworker : f.settled.worker = f.channel.worker := by
      rw [settled, hcall]
      rfl
    refine Or.inl ⟨?_, ?_⟩
    · have htake := Channel.Does.take (c := f.settled) hworking hgoing hheld
      rw [hworker] at htake
      exact htake
    · rw [htakes, hheld, received, received, hcall, List.append_assoc]
      rfl
  | leave hcall hworking hdone =>
    have htakes : f.settled.takes? .work = none := takes?_of_done hdone
    refine Or.inl ⟨Channel.Does.finish (c := f.settled) hworking hdone, ?_⟩
    rw [htakes]
    exact (List.append_nil _).symm

/-! ### How far the worker comes -/

/-- How a worker stands that is told to stop during the `n`-th attempt. -/
structure OnCourse (n : Nat) (archive : Archive) (calls : List Transaction) (f : Flight) :
    Prop where
  /-- Once the call in flight is finished, the accounts of the channel are right. -/
  accounts : f.settled.Accounts archive calls f.received
  /-- The worker did just what was to be done to the calls that it finished. -/
  worker_eq : f.channel.worker = Worker.takeAll ⟨archive, Stats.zero⟩ f.finished
  /-- It received no call behind the one with the `n`-th attempt. -/
  early : ∀ before, before <+: f.received → before ≠ f.received → attempts archive before < n
  /-- When it is to stop it received just the calls up to that one. -/
  stopped : f.channel.isStopSet = true → attempts archive f.received = n
  /-- Before, it has not finished that one. -/
  going : f.channel.isStopSet = false → attempts archive f.finished < n
  /-- It does not end in the middle of a call. -/
  landed : f.channel.hasEnded = true → f.call = none

theorem onCourse_start (n capacity : Nat) (archive : Archive) (calls : List Transaction) :
    (start n capacity archive calls).OnCourse n archive calls where
  accounts :=
    { calls_eq := rfl
      worker_eq := rfl
      closed := fun h => Bool.noConfusion h
      ended := fun h => Bool.noConfusion h }
  worker_eq := rfl
  early := fun _ hbefore hne => absurd (List.prefix_nil.mp hbefore) hne
  stopped := fun h => (beq_iff_eq.mp h).symm
  going := fun h => Nat.pos_of_ne_zero (beq_eq_false_iff_ne.mp h)
  landed := fun h => Bool.noConfusion h

/-- The order to stop is due if it did not come and the call in flight makes the `n`-th attempt. -/
theorem OnCourse.isStopDue_iff (h : f.OnCourse n archive calls) :
    f.isStopDue n = true ↔ f.channel.isStopSet = false ∧
      attempts archive f.received = attempts archive f.finished + 1 ∧
        attempts archive f.finished + 1 = n := by
  have hattempts : f.channel.worker.stats.attempts = attempts archive f.finished := by
    rw [h.worker_eq, Worker.attempts_takeAll]
  have harchive : f.channel.worker.archive = (examineAll archive f.finished).1 := by
    rw [h.worker_eq, Worker.takeAll_eq]
  rw [isStopDue, hattempts, harchive, received]
  cases f.call with
  | none => simp
  | some trx =>
    rw [Option.any_some, Option.toList_some, attempts_concat]
    cases (examine (examineAll archive f.finished).1 trx).value.2.isAttempt <;> simp

/-- If the order to stop is not due, finishing the call in flight is not the `n`-th attempt. -/
theorem OnCourse.attempts_lt (h : f.OnCourse n archive calls) (hdue : f.isStopDue n = false)
    (hgoing : f.channel.isStopSet = false) : attempts archive f.received < n := by
  have hfinished := h.going hgoing
  have hnot : ¬(attempts archive f.received = attempts archive f.finished + 1 ∧
      attempts archive f.finished + 1 = n) := by
    intro hlast
    exact Bool.eq_false_iff.mp hdue (h.isStopDue_iff.mpr ⟨hgoing, hlast⟩)
  have hle : attempts archive f.received ≤ attempts archive f.finished + 1 := by
    rw [received]
    cases f.call with
    | none =>
      rw [Option.toList_none, List.append_nil]
      exact Nat.le_succ _
    | some trx =>
      rw [Option.toList_some, attempts_concat]
      split <;> omega
  omega

/-- **Step**: a move keeps the worker on course. -/
theorem Does.onCourse (hdoes : f.Does n move next) (h : f.OnCourse n archive calls) :
    next.OnCourse n archive calls := by
  have haccounts : next.settled.Accounts archive calls next.received := by
    rcases hdoes.settled with ⟨hmoved, hreceived⟩ | ⟨hsame, hreceived⟩
    · rw [hreceived]
      exact hmoved.accounts h.accounts
    · rw [hsame, hreceived]
      exact h.accounts
  cases hdoes with
  | send hsend =>
    cases hsend with
    | send hfeed hopen hworking hroom => exact { h with accounts := haccounts }
  | close hclose =>
    cases hclose with
    | close hopen hdone => exact { h with accounts := haccounts }
  | stop hdue =>
    obtain ⟨-, hreceived, hn⟩ := h.isStopDue_iff.mp hdue
    exact { h with accounts := haccounts, stopped := fun _ => hreceived.trans hn, going := nofun }
  | @finish trx hcall hdue =>
    -- the calls that were received stay the same; there is just none in flight any more
    have hreceived : f.received = f.finished ++ [trx] := by
      rw [received, hcall]
      rfl
    have hsame : f.finished ++ [trx] ++ [] = f.received := by
      rw [List.append_nil, hreceived]
    refine ⟨haccounts, ?_, ?_, ?_, ?_, fun _ => rfl⟩
    · rw [Worker.takeAll_concat, ← h.worker_eq]
    · show ∀ before, before <+: f.finished ++ [trx] ++ [] → before ≠ f.finished ++ [trx] ++ [] → _
      rw [hsame]
      exact h.early
    · show _ → attempts archive (f.finished ++ [trx] ++ []) = n
      rw [hsame]
      exact h.stopped
    · intro hgoing
      rw [← hreceived]
      exact h.attempts_lt hdue hgoing
  | @receive trx rest hcall hworking hgoing hheld =>
    have hfinished := h.going hgoing
    refine { h with accounts := haccounts, early := ?_, stopped := ?_, landed := ?_ }
    · intro before hbefore hne
      -- what comes before the new call was finished, with fewer than `n` attempts
      have hbegins := (List.prefix_concat_iff.mp hbefore).resolve_left hne
      exact Nat.lt_of_le_of_lt (attempts_mono hbegins) hfinished
    · exact fun hstop => absurd hstop (Bool.eq_false_iff.mp hgoing)
    · exact fun hended => absurd hended (Bool.eq_false_iff.mp hworking)
  | leave hcall hworking hdone =>
    exact { h with accounts := haccounts, landed := fun _ => hcall }

/-- **Invariant**: any moves keep the worker on course. -/
theorem OnCourse.run (h : f.OnCourse n archive calls) (hrun : f.run? n moves = some last) :
    last.OnCourse n archive calls := by
  induction moves generalizing f with
  | nil =>
    obtain rfl := Option.some.inj hrun
    exact h
  | cons move rest ih =>
    rw [run?, Option.bind_eq_some_iff] at hrun
    obtain ⟨next, hstep, hrest⟩ := hrun
    exact ih ((does_of_step? hstep).onCourse h) hrest

/-- A worker that has ended received the calls of the cut. -/
theorem OnCourse.isCut (h : f.OnCourse n archive calls) (hended : f.channel.hasEnded = true) :
    IsCut n archive calls f.received where
  begins := ⟨f.channel.held ++ f.channel.feed, by
    rw [← List.append_assoc]
    exact h.accounts.calls_eq⟩
  early := h.early
  whole := by
    rcases h.accounts.ended hended with hstop | ⟨hheld, hfeed⟩
    · exact Or.inr (h.stopped hstop)
    · have hcalls := h.accounts.calls_eq
      rw [hheld, hfeed, List.append_nil, List.append_nil] at hcalls
      exact Or.inl hcalls

/-! ### Coming to the end -/

theorem capacity_of_run? (hrun : f.run? n moves = some last) :
    last.channel.capacity = f.channel.capacity := by
  induction moves generalizing f with
  | nil =>
    obtain rfl := Option.some.inj hrun
    rfl
  | cons move rest ih =>
    rw [run?, Option.bind_eq_some_iff] at hrun
    obtain ⟨next, hstep, hrest⟩ := hrun
    rw [ih hrest]
    cases does_of_step? hstep with
    | send hsend => cases hsend with | send => rfl
    | close hclose => cases hclose with | close => rfl
    | stop | finish | receive | leave => rfl

/-- The most moves that are still possible: three for each call that is to be sent, and one each for
closing the channel, for the order to stop and for ending. -/
def movesLeft (f : Flight) : Nat :=
  3 * f.channel.feed.length + 2 * f.channel.held.length + f.call.toList.length
    + (!f.channel.isClosed).toNat + (!f.channel.isStopSet).toNat + (!f.channel.hasEnded).toNat

theorem Does.movesLeft_lt (hdoes : f.Does n move next) : next.movesLeft < f.movesLeft := by
  unfold movesLeft
  cases hdoes with
  | send hsend =>
    cases hsend with
    | send hfeed hopen hworking hroom =>
      -- of the three moves of a call, two are left in the channel and one in flight
      simp only [hfeed, List.length_cons, List.length_append, List.length_nil]
      omega
  | close hclose =>
    cases hclose with
    | close hopen hdone =>
      simp only [hopen, Bool.not_true, Bool.not_false, Bool.toNat_true, Bool.toNat_false]
      omega
  | stop hdue =>
    rw [isStopDue, Bool.and_eq_true, Bool.not_eq_true'] at hdue
    simp only [hdue.1, Bool.not_true, Bool.not_false, Bool.toNat_true, Bool.toNat_false]
    omega
  | finish hcall hdue =>
    simp only [hcall, Option.toList_some, Option.toList_none, List.length_singleton,
      List.length_nil]
    omega
  | receive hcall hworking hgoing hheld =>
    simp only [hcall, hheld, Option.toList_some, Option.toList_none, List.length_cons,
      List.length_nil]
    omega
  | leave hcall hworking hdone =>
    simp only [hworking, Bool.not_true, Bool.not_false, Bool.toNat_true, Bool.toNat_false]
    omega

/-- **Termination**: no run goes on for ever. -/
theorem length_add_movesLeft_le (hrun : f.run? n moves = some last) :
    moves.length + last.movesLeft ≤ f.movesLeft := by
  induction moves generalizing f with
  | nil =>
    obtain rfl := Option.some.inj hrun
    exact Nat.le_of_eq (Nat.zero_add _)
  | cons move rest ih =>
    rw [run?, Option.bind_eq_some_iff] at hrun
    obtain ⟨next, hstep, hrest⟩ := hrun
    have hlt := (does_of_step? hstep).movesLeft_lt
    have hle := ih hrest
    rw [List.length_cons]
    omega

/-- **Progress**: while the worker has not ended, feed and worker never wait for each other. -/
theorem exists_move (hcapacity : 0 < f.channel.capacity) (hworking : f.channel.hasEnded = false) :
    ∃ move, (f.step? n move).isSome = true := by
  cases hcall : f.call with
  | some trx =>
    -- the call in flight can be finished, unless the order to stop has to come first
    cases hdue : f.isStopDue n with
    | true => exact ⟨.stop, by simp [step?, stop?, hdue]⟩
    | false => exact ⟨.work, by simp [step?, work?, hcall, hdue]⟩
  | none =>
  cases hgoing : f.channel.isStopSet with
  | true => exact ⟨.work, by simp [step?, work?, hcall, hworking, hgoing]⟩
  | false =>
  cases hheld : f.channel.held with
  | cons trx rest => exact ⟨.work, by simp [step?, work?, hcall, hworking, hgoing, hheld]⟩
  | nil =>
  cases hopen : f.channel.isClosed with
  | true => exact ⟨.work, by simp [step?, work?, hcall, hworking, hgoing, hheld, hopen]⟩
  | false =>
  cases hfeed : f.channel.feed with
  | cons trx rest =>
    have hroom : f.channel.capacity ≠ 0 := Nat.ne_of_gt hcapacity
    exact ⟨.send, by simp [step?, send?, hfeed, hopen, hworking, hheld, hroom]⟩
  | nil => exact ⟨.close, by simp [step?, close?, hfeed, hopen]⟩

end Flight

open Flight

/-- **The cut**: a worker that is told to stop during the `n`-th attempt to write, or before the
start if `n` is zero, receives the calls up to the one with that attempt, or all of them if there
are fewer attempts, and finishes each.  It counts their outcomes, failed attempts among the
attempts; rows of which no copy was written stay as they were, and so does everything else.  Neither
the capacity of the channel nor the order of the moves matters, no run goes on for ever, and none is
stuck before the worker has ended. -/
theorem stop_cuts_after_attempt (n capacity : Nat) (archive : Archive) (calls : List Transaction)
    (moves : List Channel.Move) {last : Flight}
    (hrun : (start n capacity archive calls).run? n moves = some last) :
    (last.channel.hasEnded = true →
      last.received <+: calls ∧
      (attempts archive calls < n → last.received = calls) ∧
      (n ≤ attempts archive calls → attempts archive last.received = n ∧
        ∀ before trx, last.received = before ++ [trx] → attempts archive before + 1 = n) ∧
      last.finished = last.received ∧
      last.channel.worker.archive
        = changeRows archive
          (fun row => rowAfterAll row (examineAll archive last.received).2) ∧
      (∀ row, (∀ copy, .written copy ∈ (examineAll archive last.received).2 →
          row.isOf copy.hash = false) →
        rowAfterAll row (examineAll archive last.received).2 = row) ∧
      last.channel.worker.stats.received = last.received.length ∧
      last.channel.worker.stats.classified + last.channel.worker.stats.failed
        = min n (attempts archive calls) ∧
      last.channel.worker.stats.classified
        = (examineAll archive last.received).2.countP Outcome.isWritten ∧
      last.channel.worker.stats.failed
        = (examineAll archive last.received).2.countP Outcome.isUnwritten ∧
      last.channel.worker.stats.skipped
        = (examineAll archive last.received).2.countP Outcome.isSkipped ∧
      (last.channel.worker.archive, last.channel.worker.stats)
        = (Worker.run archive calls (some n)).value) ∧
    (0 < capacity → last.channel.hasEnded = false →
      ∃ move, (last.step? n move).isSome = true) ∧
    moves.length ≤ 3 * calls.length + 3 := by
  have hcourse := (onCourse_start n capacity archive calls).run hrun
  refine ⟨fun hended => ?_, fun hcapacity hworking => ?_, ?_⟩
  · have hcut := hcourse.isCut hended
    have hfinished : last.finished = last.received := by
      rw [received, hcourse.landed hended]
      exact (List.append_nil _).symm
    have hworker := hcourse.worker_eq
    rw [hfinished, Worker.takeAll_eq] at hworker
    have hsum : (Stats.ofOutcomes (examineAll archive last.received).2).attempts
        = min n (attempts archive calls) := by
      rw [Stats.attempts_ofOutcomes]
      exact hcut.attempts_eq
    rw [hworker]
    refine ⟨hcut.begins, hcut.eq_of_lt, fun hle => ⟨?_, fun before trx => hcut.attempts_succ hle⟩,
      hfinished, examineAll_fst archive last.received, fun row => rowAfterAll_of_forall,
      length_examineAll _ _, hsum, rfl, rfl, rfl, (Worker.run_some_value hcut).symm⟩
    rw [hcut.attempts_eq]
    exact Nat.min_eq_left hle
  · apply exists_move _ hworking
    rw [capacity_of_run? hrun]
    exact hcapacity
  · have hle := length_add_movesLeft_le hrun
    have hstart : (start n capacity archive calls).movesLeft ≤ 3 * calls.length + 3 := by
      have hstop : (!(n == 0)).toNat ≤ 1 := Bool.toNat_le _
      show 3 * calls.length + 2 * 0 + 0 + 1 + (!(n == 0)).toNat + 1 ≤ _
      omega
    omega

/-- An archive that knows the contract of the zero address and one call of it. -/
def zeroArchive : Archive :=
  .ofStore .standard
    { Store.empty with
      transactions := some
        [⟨some (.text zeroCall.hash.toText), .null, .text "", none, .text "", none, none, .null⟩]
      contracts := some [⟨some (.text (FixedBytes.zero : Address).toText), .text "ERC20", none⟩] }
    fun _ => ⟨[], [], .error .offline⟩

/-- The order comes while the first of two calls is being written and the second one is in the
channel: the worker finishes the first and does not receive the second. -/
theorem stop_during_first_of_two :
    ∃ last, (start 1 1 zeroArchive [zeroCall, zeroCall]).run? 1
        [.send, .work, .send, .stop, .work, .close, .work] = some last ∧
      last.channel.hasEnded = true ∧ attempts zeroArchive [zeroCall, zeroCall] = 2 ∧
      last.received = [zeroCall] ∧
      last.channel.worker.stats.classified + last.channel.worker.stats.failed = 1 := by
  have hattempts : attempts zeroArchive [zeroCall, zeroCall] = 2 := by decide +kernel
  have hends : (((start 1 1 zeroArchive [zeroCall, zeroCall]).run? 1
      [.send, .work, .send, .stop, .work, .close, .work]).any fun last =>
        last.channel.hasEnded && last.received == [zeroCall]) = true := by decide +kernel
  obtain ⟨last, hrun, hlast⟩ := (Option.any_eq_true _ _).mp hends
  rw [Bool.and_eq_true, beq_iff_eq] at hlast
  obtain ⟨hended, -, -⟩ := stop_cuts_after_attempt 1 1 zeroArchive [zeroCall, zeroCall] _ hrun
  obtain ⟨-, -, -, -, -, -, -, hsum, -⟩ := hended hlast.1
  rw [hattempts] at hsum
  exact ⟨last, hrun, hlast.1, hattempts, hlast.2, hsum⟩

end OffChain.Classification
