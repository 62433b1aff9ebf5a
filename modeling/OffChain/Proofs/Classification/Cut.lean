import OffChain.Proofs.Classification.Worker

/-!
# Where an order to stop cuts a run

A worker that is told to stop during the `n`-th attempt to write has the calls up to the one that
makes it, or all of them if there are fewer attempts (`IsCut`).  These determine what it did: the
number of attempts (`IsCut.attempts_eq`), the last call (`IsCut.attempts_succ`), and that a worker
that works alone leaves the same archive and counters (`Worker.run_some_value`).
-/

namespace OffChain.Classification

variable {n : Nat} {archive : Archive} {calls done : List Transaction}

/-! ### Attempts -/

theorem Stats.attempts_ofOutcomes (outcomes : List Outcome) :
    (ofOutcomes outcomes).attempts = outcomes.countP Outcome.isAttempt := by
  unfold attempts ofOutcomes
  dsimp only
  induction outcomes with
  | nil => rfl
  | cons outcome outcomes ih =>
    cases outcome <;>
      simp [List.countP_cons, Outcome.isWritten, Outcome.isUnwritten, Outcome.isAttempt] <;>
      omega

theorem examineAll_append (archive : Archive) (done rest : List Transaction) :
    examineAll archive (done ++ rest) =
      ((examineAll (examineAll archive done).1 rest).1,
        (examineAll archive done).2 ++ (examineAll (examineAll archive done).1 rest).2) := by
  induction done generalizing archive with
  | nil => rfl
  | cons trx done ih =>
    rw [List.cons_append, examineAll]
    dsimp only
    rw [ih]
    rfl

/-- How many of some calls lead to an attempt to write, successful or not. -/
def attempts (archive : Archive) (calls : List Transaction) : Nat :=
  (examineAll archive calls).2.countP Outcome.isAttempt

theorem attempts_append (archive : Archive) (done rest : List Transaction) :
    attempts archive (done ++ rest)
      = attempts archive done + attempts (examineAll archive done).1 rest := by
  rw [attempts, examineAll_append, List.countP_append]
  rfl

theorem attempts_mono (h : done <+: calls) :
    attempts archive done ≤ attempts archive calls := by
  obtain ⟨rest, rfl⟩ := h
  rw [attempts_append]
  exact Nat.le_add_right _ _

theorem attempts_concat (archive : Archive) (done : List Transaction) (trx : Transaction) :
    attempts archive (done ++ [trx]) = attempts archive done +
      if (examine (examineAll archive done).1 trx).value.2.isAttempt then 1 else 0 := by
  rw [attempts_append]
  congr 1
  exact List.countP_singleton

/-- The counters of a worker tell its attempts. -/
theorem Worker.attempts_takeAll (archive : Archive) (done : List Transaction) :
    (takeAll ⟨archive, Stats.zero⟩ done).stats.attempts = attempts archive done := by
  rw [takeAll_eq, Stats.attempts_ofOutcomes, attempts]

/-! ### Cuts -/

/-- The calls of a run that is cut after the call with the `n`-th attempt. -/
structure IsCut (n : Nat) (archive : Archive) (calls done : List Transaction) : Prop where
  /-- They are the first ones. -/
  begins : done <+: calls
  /-- There is none behind the one with the `n`-th attempt. -/
  early : ∀ before, before <+: done → before ≠ done → attempts archive before < n
  /-- None up to that one is missing. -/
  whole : done = calls ∨ attempts archive done = n

theorem IsCut.attempts_eq (h : IsCut n archive calls done) :
    attempts archive done = min n (attempts archive calls) := by
  have hle : attempts archive done ≤ n := by
    -- before its last call there were fewer than `n` attempts, and one call makes one at most
    rcases List.eq_nil_or_concat done with rfl | ⟨before, trx, hdone⟩
    · exact Nat.zero_le n
    · rw [List.concat_eq_append] at hdone
      subst hdone
      have hbefore := h.early before (List.prefix_append _ _) (by simp)
      rw [attempts_concat]
      split <;> omega
  have hcalls : attempts archive done ≤ attempts archive calls := attempts_mono h.begins
  rcases h.whole with rfl | hattempts
  · omega
  · omega

/-- What is left of a run that is not cut. -/
theorem IsCut.eq_of_lt (h : IsCut n archive calls done) (hlt : attempts archive calls < n) :
    done = calls := by
  have hattempts := h.attempts_eq
  exact h.whole.resolve_right (by omega)

/-- The last call of a run that is cut makes the `n`-th attempt. -/
theorem IsCut.attempts_succ (h : IsCut n archive calls done) (hle : n ≤ attempts archive calls)
    {before : List Transaction} {trx : Transaction} (hdone : done = before ++ [trx]) :
    attempts archive before + 1 = n := by
  have hattempts := h.attempts_eq
  have hbefore := h.early before (hdone ▸ List.prefix_append _ _) (by simp [hdone])
  rw [hdone, attempts_concat] at hattempts
  split at hattempts <;> omega

/-- **Working alone**: a worker goes on while it attempted to write fewer than `n` times. -/
theorem Worker.drain_some_value (w : Worker) {done rest : List Transaction}
    (hearly : ∀ before, before <+: done → before ≠ done → (w.takeAll before).stats.attempts < n)
    (hwhole : rest = [] ∨ n ≤ (w.takeAll done).stats.attempts) :
    (drain (some n) w (done ++ rest)).value = w.takeAll done := by
  -- By induction on the calls of the cut; the worker that took the first one stands the same way
  -- to the others.
  induction done generalizing w with
  | nil =>
    rw [List.nil_append]
    cases rest with
    | nil =>
      rw [drain]
      split <;> rfl
    | cons trx rest =>
      have hstop : w.isToStop (some n) = true := by
        rw [isToStop, Option.any_some, decide_eq_true_eq]
        exact hwhole.resolve_left (List.cons_ne_nil trx rest)
      rw [drain, if_pos hstop]
      rfl
  | cons trx done ih =>
    have hgoing : ¬w.isToStop (some n) = true := by
      rw [isToStop, Option.any_some, decide_eq_true_eq, Nat.not_le]
      exact hearly [] List.nil_prefix (List.cons_ne_nil trx done).symm
    rw [List.cons_append, drain, if_neg hgoing, Logged.value_bind]
    refine ih (w.take trx).value (fun before hbefore hne => ?_) hwhole
    refine hearly (trx :: before) ((List.prefix_cons_inj trx).mpr hbefore) fun heq => ?_
    exact hne (List.cons.inj heq).2

/-- A worker that works alone takes the calls of the cut. -/
theorem Worker.run_some_value (h : IsCut n archive calls done) :
    (run archive calls (some n)).value =
      ((examineAll archive done).1, Stats.ofOutcomes (examineAll archive done).2) := by
  obtain ⟨rest, rfl⟩ := h.begins
  have hdrain : (drain (some n) ⟨archive, Stats.zero⟩ (done ++ rest)).value
      = takeAll ⟨archive, Stats.zero⟩ done := by
    refine drain_some_value _ (fun before hbefore hne => ?_) ?_
    · rw [attempts_takeAll]
      exact h.early before hbefore hne
    · rw [attempts_takeAll]
      exact h.whole.imp List.self_eq_append_right.mp fun hattempts => Nat.le_of_eq hattempts.symm
  rw [takeAll_eq] at hdrain
  unfold run
  simp only [Logged.value_bind, Logged.value_pure, hdrain]

end OffChain.Classification
