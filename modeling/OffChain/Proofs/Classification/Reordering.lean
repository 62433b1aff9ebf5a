import Mathlib.Data.List.Perm.Basic
import OffChain.Proofs.Classification.Settling

/-!
# The order of calls

Calls of different transactions do not get in each other's way.  The outcome of a call is the one
that it has on its own (`examineAll_snd`), and an outcome changes no rows but those of its hash; so
two outcomes can be exchanged (`rowAfter_examine_comm`), and a whole list of them can be put in any
order (`rowAfterAll_perm`).

* `run_perm`: a worker that is not stopped leaves the same archive and the same counters, in
  whatever order it is given the calls.
-/

namespace OffChain.Classification

open Store

variable {archive : Archive} {trx other : Transaction} {calls others : List Transaction}

/-! ### Rows -/

/-- A row has the hash of one transaction at most. -/
theorem eq_of_isOf {row : TransactionRow} {a b : Hash} (ha : row.isOf a = true)
    (hb : row.isOf b = true) : a = b := by
  rw [TransactionRow.isOf, beq_iff_eq] at ha hb
  exact FixedBytes.toText_inj.mp (TextCell.text.inj (Option.some.inj (ha.symm.trans hb)))

theorem isOf_rowAfter (row : TransactionRow) (outcome : Outcome) (hash : Hash) :
    (rowAfter row outcome).isOf hash = row.isOf hash := by
  rw [TransactionRow.isOf, TransactionRow.isOf, hash_rowAfter]

/-- **Exchange**: the outcomes of calls of different transactions do the same to a row in either
order. -/
theorem rowAfter_examine_comm (h : trx.hash ≠ other.hash) (row : TransactionRow) :
    rowAfter (rowAfter row (examine archive trx).value.2) (examine archive other).value.2
      = rowAfter (rowAfter row (examine archive other).value.2) (examine archive trx).value.2 := by
  -- One of the two transactions is not that of the row, so that its outcome does nothing to it.
  cases hrow : row.isOf trx.hash with
  | false =>
    have hafter : (rowAfter row (examine archive other).value.2).isOf trx.hash = false := by
      rw [isOf_rowAfter, hrow]
    rw [rowAfter_examine_of_not_isOf hrow, rowAfter_examine_of_not_isOf hafter]
  | true =>
    have hother : row.isOf other.hash = false := by
      rw [Bool.eq_false_iff]
      exact fun hother => h (eq_of_isOf hrow hother)
    have hafter : (rowAfter row (examine archive trx).value.2).isOf other.hash = false := by
      rw [isOf_rowAfter, hother]
    rw [rowAfter_examine_of_not_isOf hother, rowAfter_examine_of_not_isOf hafter]

/-- **Rows**: so do the outcomes of any number of calls in any order. -/
theorem rowAfterAll_perm (hperm : calls.Perm others)
    (hnodup : (calls.map Transaction.hash).Nodup) (row : TransactionRow) :
    rowAfterAll row (calls.map fun trx => (examine archive trx).value.2)
      = rowAfterAll row (others.map fun trx => (examine archive trx).value.2) := by
  rw [rowAfterAll, rowAfterAll, List.foldl_map, List.foldl_map]
  apply hperm.foldl_eq'
  intro trx htrx other hother row
  by_cases heq : trx = other
  · rw [heq]
  · apply rowAfter_examine_comm
    exact fun hhash => heq (List.inj_on_of_nodup_map hnodup htrx hother hhash)

/-! ### Runs -/

theorem examineAll_fst_perm (hperm : calls.Perm others)
    (hnodup : (calls.map Transaction.hash).Nodup) :
    (examineAll archive calls).1 = (examineAll archive others).1 := by
  rw [examineAll_fst, examineAll_fst, examineAll_snd, examineAll_snd]
  congr 1
  funext row
  exact rowAfterAll_perm hperm hnodup row

/-- The counters do not look at the order of the outcomes. -/
theorem Stats.ofOutcomes_perm {outcomes outcomes' : List Outcome}
    (h : outcomes.Perm outcomes') : Stats.ofOutcomes outcomes = Stats.ofOutcomes outcomes' := by
  simp only [Stats.ofOutcomes, h.length_eq, h.countP_eq]

/-- **Order**: a worker that is not stopped leaves the same archive and the same counters, in
whatever order it is given calls of different transactions. -/
theorem run_perm (archive : Archive) {calls others : List Transaction}
    (hperm : calls.Perm others) (hnodup : (calls.map Transaction.hash).Nodup) :
    (Worker.run archive others none).value = (Worker.run archive calls none).value := by
  have houtcomes : (examineAll archive calls).2.Perm (examineAll archive others).2 := by
    rw [examineAll_snd, examineAll_snd]
    exact hperm.map _
  rw [Worker.run_value, Worker.run_value, examineAll_fst_perm hperm hnodup,
    Stats.ofOutcomes_perm houtcomes]

/-- The call of the zero address under another hash. -/
def callOf (n : UInt8) : Transaction :=
  { zeroCall with hash := ⟨List.replicate 31 0 ++ [n], rfl⟩ }

/-- An archive that has the contract of the zero address and two calls of it. -/
def twoCalls : Archive :=
  .ofStore .standard
    { Store.empty with
      transactions := some ([callOf 1, callOf 2].map TransactionRow.ofTransaction)
      contracts := some [ContractRow.ofContract ⟨FixedBytes.zero, "ERC20", none⟩] }
    fun _ => ⟨[], [], .error .offline⟩

/-- Two calls are classified and one that has no row is not, in whichever order they come. -/
theorem run_perm_of_three_calls :
    ([callOf 1, callOf 3, callOf 2].map Transaction.hash).Nodup ∧
      (Worker.run twoCalls [callOf 2, callOf 1, callOf 3] none).value
        = (Worker.run twoCalls [callOf 1, callOf 3, callOf 2] none).value ∧
      (Worker.run twoCalls [callOf 1, callOf 3, callOf 2] none).value.2 = ⟨3, 2, 0, 1⟩ := by
  have hnodup : ([callOf 1, callOf 3, callOf 2].map Transaction.hash).Nodup := by decide +kernel
  have hperm : [callOf 1, callOf 3, callOf 2].Perm [callOf 2, callOf 1, callOf 3] := by
    decide +kernel
  exact ⟨hnodup, run_perm twoCalls hperm hnodup, by decide +kernel⟩

end OffChain.Classification
