import OffChain.Proofs.Store.Records
import OffChain.Proofs.Store.Rows
import OffChain.Proofs.Traversal
import OffChain.Store.Direct

/-!
# Changes that others make

A store is changed by its own operations and by rows that others write into its tables
(`Store.Change`).  Whatever is changed, the rows of withdrawal requests stand in the order of their
numbers (`Store.IsOrdered.changeAll`): a row that others write takes the next number too.
-/

namespace OffChain.Store

/-! ### Ledgers in order -/

/-- The rows stand in the order of their numbers, which were all given out. -/
structure Ledger.IsOrdered (ledger : Ledger) : Prop where
  ascending : ledger.rows.Pairwise fun a b => a.seq < b.seq
  seq_le : ∀ row ∈ ledger.rows, row.seq ≤ ledger.lastSeq

namespace Ledger.IsOrdered

variable {ledger ledger' : Ledger}

theorem empty : Ledger.empty.IsOrdered :=
  ⟨.nil, fun _ h => absurd h List.not_mem_nil⟩

/-- A number may be given out for nothing. -/
theorem skip (h : ledger.IsOrdered) : Ledger.IsOrdered ⟨ledger.rows, ledger.lastSeq + 1⟩ :=
  ⟨h.ascending, fun row hrow => Nat.le_succ_of_le (h.seq_le row hrow)⟩

theorem append (h : ledger.IsOrdered) {row : RequestRow} (hseq : row.seq = ledger.lastSeq + 1) :
    Ledger.IsOrdered ⟨ledger.rows ++ [row], ledger.lastSeq + 1⟩ where
  ascending := by
    refine List.pairwise_append.mpr ⟨h.ascending, List.pairwise_singleton _ _, fun a ha b hb => ?_⟩
    rw [List.mem_singleton.mp hb, hseq]
    exact Nat.lt_succ_of_le (h.seq_le a ha)
  seq_le := by
    intro a ha
    rcases List.mem_append.mp ha with ha | ha
    · exact Nat.le_succ_of_le (h.seq_le a ha)
    · rw [List.mem_singleton.mp ha]
      exact hseq.le

theorem offer {r : WithdrawRequest} {n : Nat} (h : ledger.IsOrdered)
    (hoffer : ledger.offer r = .ok (ledger', n)) : ledger'.IsOrdered := by
  unfold Ledger.offer at hoffer
  split at hoffer
  · exact nomatch hoffer
  · cases hrow : RequestRow.of? (ledger.lastSeq + 1) r with
    | none => exact nomatch hrow ▸ hoffer
    | some row =>
      have hseq : row.seq = ledger.lastSeq + 1 := by
        rw [RequestRow.of?_eq] at hrow
        split at hrow
        · rw [← Option.some.inj hrow]
          rfl
        · exact nomatch hrow
      simp only [hrow] at hoffer
      split at hoffer
      · obtain ⟨rfl, -⟩ := Prod.mk.inj (Except.ok.inj hoffer)
        exact h.skip
      · obtain ⟨rfl, -⟩ := Prod.mk.inj (Except.ok.inj hoffer)
        exact h.append hseq

theorem offerAll {batch : List WithdrawRequest} {n : Nat} (h : ledger.IsOrdered)
    (hoffer : ledger.offerAll batch = .ok (ledger', n)) : ledger'.IsOrdered := by
  induction batch generalizing ledger n with
  | nil =>
    obtain ⟨rfl, -⟩ := Prod.mk.inj (Except.ok.inj hoffer)
    exact h
  | cons r batch ih =>
    obtain ⟨⟨next, k⟩, hfirst, hrest⟩ := bind_eq_ok_iff.mp hoffer
    obtain ⟨⟨last, m⟩, hlast, hpair⟩ := bind_eq_ok_iff.mp hrest
    obtain ⟨rfl, -⟩ := Prod.mk.inj (Except.ok.inj hpair)
    exact ih (h.offer hfirst) hlast

end Ledger.IsOrdered

/-! ### Stores that others write to -/

/-- What changes a store without removing a table: its own operations, and rows that others write
into its tables, with whatever columns they like. -/
inductive Change where
  | perform (op : Operation)
  | writeTransaction (columns : Columns)
  | writeAccount (columns : Columns)
  | writeContract (columns : Columns)
  | writeWithdrawRequest (columns : Columns)

/-- Makes a change. -/
def change (s : Store) : Change → Except StoreError Store
  | .perform op => (s.perform op).map Prod.fst
  | .writeTransaction columns => s.writeTransaction columns
  | .writeAccount columns => s.writeAccount columns
  | .writeContract columns => s.writeContract columns
  | .writeWithdrawRequest columns => s.writeWithdrawRequest columns

/-- Makes some changes, first one first; one that fails leaves the store as it is. -/
def changeAll : Store → List Change → Store
  | s, [] => s
  | s, c :: cs =>
    match s.change c with
    | .ok next => next.changeAll cs
    | .error _ => s.changeAll cs

/-- The table of withdrawal requests is there and in order. -/
def IsOrdered (s : Store) : Prop :=
  ∃ ledger, s.ledger = some ledger ∧ ledger.IsOrdered

namespace IsOrdered

variable {s t : Store}

theorem addRequests {batch : List WithdrawRequest} {n : Nat} (h : s.IsOrdered)
    (hadd : s.addRequests batch = .ok (t, n)) : t.IsOrdered := by
  obtain ⟨ledger, hledger, hordered⟩ := h
  obtain ⟨ledger', hinsertable, hadd⟩ := bind_eq_ok_iff.mp hadd
  obtain rfl := Option.some.inj (hledger.symm.trans (insertable_eq_ok hinsertable))
  obtain ⟨⟨next, k⟩, hoffer, hpair⟩ := bind_eq_ok_iff.mp hadd
  obtain ⟨rfl, -⟩ := Prod.mk.inj (Except.ok.inj hpair)
  exact ⟨next, rfl, hordered.offerAll hoffer⟩

theorem perform {op : Operation} {n : Option Nat} (h : s.IsOrdered)
    (hperform : s.perform op = .ok (t, n)) : t.IsOrdered := by
  cases op with
  | addTransactions batch =>
    obtain ⟨⟨next, k⟩, hadd, hpair⟩ := map_eq_ok_iff.mp hperform
    obtain ⟨rfl, -⟩ := Prod.mk.inj hpair
    obtain ⟨rows, -, hadd⟩ := bind_eq_ok_iff.mp hadd
    obtain ⟨⟨rows', m⟩, -, hpair⟩ := bind_eq_ok_iff.mp hadd
    obtain ⟨rfl, -⟩ := Prod.mk.inj (Except.ok.inj hpair)
    exact h
  | writeClassification trx =>
    obtain ⟨next, hwrite, hpair⟩ := map_eq_ok_iff.mp hperform
    obtain ⟨rfl, -⟩ := Prod.mk.inj hpair
    obtain ⟨rows, -, hwrite⟩ := bind_eq_ok_iff.mp hwrite
    split at hwrite
    · rw [← Except.ok.inj hwrite]
      exact h
    · exact nomatch hwrite
  | keepAccount account =>
    obtain ⟨next, hkeep, hpair⟩ := map_eq_ok_iff.mp hperform
    obtain ⟨rfl, -⟩ := Prod.mk.inj hpair
    obtain ⟨rows, -, hkeep⟩ := bind_eq_ok_iff.mp hkeep
    rw [← Except.ok.inj hkeep]
    exact h
  | keepContract contract =>
    obtain ⟨next, hkeep, hpair⟩ := map_eq_ok_iff.mp hperform
    obtain ⟨rfl, -⟩ := Prod.mk.inj hpair
    obtain ⟨rows, -, hkeep⟩ := bind_eq_ok_iff.mp hkeep
    rw [← Except.ok.inj hkeep]
    exact h
  | addRequests batch =>
    obtain ⟨⟨next, k⟩, hadd, hpair⟩ := map_eq_ok_iff.mp hperform
    obtain ⟨rfl, -⟩ := Prod.mk.inj hpair
    exact h.addRequests hadd

/-- **Step**: no change puts rows out of order, for a row that others write takes the next number
too. -/
theorem change {c : Change} (h : s.IsOrdered) (hchange : s.change c = .ok t) : t.IsOrdered := by
  cases c with
  | perform op =>
    obtain ⟨⟨next, n⟩, hperform, rfl⟩ := map_eq_ok_iff.mp hchange
    exact h.perform hperform
  | writeTransaction columns =>
    obtain ⟨rows, -, hwrite⟩ := bind_eq_ok_iff.mp hchange
    obtain ⟨sender, -, hwrite⟩ := bind_eq_ok_iff.mp hwrite
    obtain ⟨input, -, hwrite⟩ := bind_eq_ok_iff.mp hwrite
    rw [← Except.ok.inj hwrite]
    exact h
  | writeAccount columns =>
    obtain ⟨rows, -, hwrite⟩ := bind_eq_ok_iff.mp hchange
    obtain ⟨accountType, -, hwrite⟩ := bind_eq_ok_iff.mp hwrite
    rw [← Except.ok.inj hwrite]
    exact h
  | writeContract columns =>
    obtain ⟨rows, -, hwrite⟩ := bind_eq_ok_iff.mp hchange
    obtain ⟨contractType, -, hwrite⟩ := bind_eq_ok_iff.mp hwrite
    rw [← Except.ok.inj hwrite]
    exact h
  | writeWithdrawRequest columns =>
    obtain ⟨ledger, hledger, hordered⟩ := h
    obtain ⟨ledger', hwritable, hwrite⟩ := bind_eq_ok_iff.mp hchange
    obtain rfl := Option.some.inj (hledger.symm.trans (writable_eq_ok hwritable))
    obtain ⟨requestId, -, hwrite⟩ := bind_eq_ok_iff.mp hwrite
    obtain ⟨address, -, hwrite⟩ := bind_eq_ok_iff.mp hwrite
    obtain ⟨stakerId, -, hwrite⟩ := bind_eq_ok_iff.mp hwrite
    obtain ⟨amount, -, hwrite⟩ := bind_eq_ok_iff.mp hwrite
    obtain ⟨createdTime, -, hwrite⟩ := bind_eq_ok_iff.mp hwrite
    simp only at hwrite
    split at hwrite
    · exact nomatch hwrite
    · rw [← Except.ok.inj hwrite]
      exact ⟨_, rfl, hordered.append rfl⟩

theorem changeAll (h : s.IsOrdered) (changes : List Change) : (s.changeAll changes).IsOrdered := by
  induction changes generalizing s with
  | nil => exact h
  | cons c changes ih =>
    rw [Store.changeAll]
    cases hchange : s.change c with
    | error e => exact ih h
    | ok next => exact ih (h.change hchange)

end IsOrdered

theorem isOrdered_empty : empty.IsOrdered :=
  ⟨Ledger.empty, rfl, .empty⟩

end OffChain.Store
