import OffChain.Proofs.Classification.Effects
import OffChain.Proofs.Store.Pending

/-!
# Calls of a table

The calls that are examined are those of a table of transactions of different hashes.  Each of them
has a row of its own there, and its outcome is the one that it has on its own; so examining some of
them settles each in its row, in any order, and leaves the other rows as they are
(`examineAll_of_lists`).

A stored call that can be one is classified exactly if the store has a record of the contract that
it calls (`examine_of_lists`): nothing stands in the way of writing.
-/

namespace OffChain

/-! ### Stores as lists of transactions -/

namespace Store

/-- The rows of transactions of a store that takes changes are those of transactions of different
hashes. -/
structure Lists (s : Store) (trxs : List Transaction) : Prop where
  /-- It takes changes. -/
  isReadOnly : s.isReadOnly = false
  /-- The rows are those of the transactions. -/
  transactions : s.transactions = some (trxs.map TransactionRow.ofTransaction)
  /-- No two of these have one hash. -/
  nodup : (trxs.map Transaction.hash).Nodup

/-- A store with the rows of other transactions. -/
def withTransactions (s : Store) (trxs : List Transaction) : Store :=
  { s with transactions := some (trxs.map TransactionRow.ofTransaction) }

/-- Whether a transaction is sent to a contract that the store has a record of. -/
def tracks (s : Store) (trx : Transaction) : Bool :=
  trx.recipient.any fun callee =>
    match s.contractAt callee with
    | .ok (some _) => true
    | _ => false

variable {s : Store} {r : Records} {trxs : List Transaction}

theorem Lists.self_withTransactions (h : s.Lists trxs) : s.withTransactions trxs = s := by
  rw [withTransactions, ← h.transactions]

theorem Lists.withTransactions (h : s.Lists trxs) {others : List Transaction}
    (hnodup : (others.map Transaction.hash).Nodup) : (s.withTransactions others).Lists others :=
  ⟨h.isReadOnly, rfl, hnodup⟩

theorem Holds.exists_lists (h : s.Holds r) : ∃ trxs, s.Lists trxs := by
  obtain ⟨trxs, hrows, htable⟩ := h.transactions
  exact ⟨trxs, h.isReadOnly, hrows, htable.nodup⟩

theorem Holds.exists_withTransactions (h : s.Holds r)
    (hnodup : (trxs.map Transaction.hash).Nodup) : ∃ r', (s.withTransactions trxs).Holds r' := by
  obtain ⟨m, htable⟩ := IsTableOf.exists_of_nodup hnodup
  exact ⟨{ r with transactions := m }, { h with transactions := ⟨trxs, rfl, htable⟩ }⟩

/-- The row counts of a store with other transactions: only two of them hang on these. -/
theorem Holds.rowCounts_withTransactions (h : s.Holds r) :
    ∃ accounts contracts requests, ∀ others : List Transaction,
      (s.withTransactions others).rowCounts = .ok
        { transactions := others.length
          classified := others.countP fun trx => trx.targetCall.isSome
          accounts := accounts
          contracts := contracts
          withdrawRequests := requests } := by
  obtain ⟨accounts, haccounts, -⟩ := h.accounts
  obtain ⟨contracts, hcontracts, -⟩ := h.contracts
  refine ⟨accounts.length, contracts.length, r.requests.toLedger.rows.length, fun others => ?_⟩
  unfold rowCounts tally tally? withTransactions
  rw [haccounts, hcontracts, h.ledger]
  simp only [Option.map_some, List.length_map, TransactionRow.countP_ofTransaction]
  rfl

end Store

/-! ### Calls of a table -/

namespace Classification

open Store

/-- A transaction as an outcome leaves it. -/
def Outcome.settle (trx : Transaction) : Outcome → Transaction
  | .written copy => copy
  | .unwritten _ _ => trx
  | .untracked => trx
  | .noCall => trx

/-- A transaction as examining it leaves it. -/
def settled (archive : Archive) (trx : Transaction) : Transaction :=
  (examine archive trx).value.2.settle trx

variable {archive : Archive} {trx copy : Transaction} {trxs calls : List Transaction}

/-- A copy differs from its transaction in nothing but the classification. -/
theorem Finds.reclassify (h : Finds archive trx copy) :
    copy.hash = trx.hash ∧ Records.reclassify copy trx = copy ∧
      Records.reclassify copy copy = copy := by
  obtain ⟨callee, contract, -, -, -, rfl⟩ := h
  exact ⟨rfl, rfl, rfl⟩

/-- What is written is what was found out. -/
theorem finds_of_written (h : (examine archive trx).value.2 = .written copy) :
    Finds archive trx copy := by
  rcases cannotCall_or_callsUnknown_or_finds archive trx with hno | hunknown | ⟨found, hfound⟩
  · rw [examine_of_cannotCall archive hno] at h
    cases h
  · rw [examine_of_callsUnknown hunknown] at h
    cases h
  · rw [examine_of_finds hfound] at h
    cases hfailure : writeFailure? archive trx.hash with
    | none =>
      rw [hfailure] at h
      exact Outcome.written.inj h ▸ hfound
    | some cause =>
      rw [hfailure] at h
      cases h

theorem hash_settled (archive : Archive) (trx : Transaction) :
    (settled archive trx).hash = trx.hash := by
  unfold settled
  cases houtcome : (examine archive trx).value.2 with
  | written copy => exact (finds_of_written houtcome).reclassify.1
  | unwritten | untracked | noCall => rfl

/-- The row of a transaction, written or not, is that of what examining leaves. -/
theorem rowAfter_examine {current : Transaction}
    (h : current = trx ∨ current = settled archive trx) :
    rowAfter (TransactionRow.ofTransaction current) (examine archive trx).value.2
      = TransactionRow.ofTransaction (settled archive trx) := by
  unfold settled at h ⊢
  cases houtcome : (examine archive trx).value.2 with
  | written copy =>
    rw [houtcome] at h
    obtain ⟨hhash, honto, hself⟩ := (finds_of_written houtcome).reclassify
    have hown : current.hash = copy.hash ∧ Records.reclassify copy current = copy := by
      rcases h with rfl | rfl
      · exact ⟨hhash.symm, honto⟩
      · exact ⟨rfl, hself⟩
    rw [rowAfter, TransactionRow.isOf_ofTransaction, if_pos (beq_iff_eq.mpr hown.1),
      classifiedAs_ofTransaction, hown.2]
    rfl
  | unwritten | untracked | noCall =>
    rw [houtcome] at h
    obtain rfl : current = trx := h.elim id id
    rfl

/-- An outcome leaves the rows of other hashes as they are. -/
theorem rowAfter_examine_of_not_isOf {row : TransactionRow} (h : row.isOf trx.hash = false) :
    rowAfter row (examine archive trx).value.2 = row := by
  cases houtcome : (examine archive trx).value.2 with
  | written copy =>
    have hhash := (finds_of_written houtcome).reclassify.1
    rw [rowAfter, hhash, h]
    rfl
  | unwritten | untracked | noCall => rfl

theorem rowAfter_examine_of_ne {current : Transaction} (h : current.hash ≠ trx.hash) :
    rowAfter (TransactionRow.ofTransaction current) (examine archive trx).value.2
      = TransactionRow.ofTransaction current := by
  apply rowAfter_examine_of_not_isOf
  rw [TransactionRow.isOf_ofTransaction, beq_eq_false_iff_ne]
  exact h

/-- **Run**: what examining some calls makes of the row of a transaction, if no other call has its
hash. -/
theorem rowAfterAll_examine {current : Transaction}
    (hcurrent : current = trx ∨ current = settled archive trx)
    (hcalls : ∀ call ∈ calls, call.hash = trx.hash → call = trx) :
    rowAfterAll (TransactionRow.ofTransaction current)
        (calls.map fun call => (examine archive call).value.2)
      = TransactionRow.ofTransaction (if trx ∈ calls then settled archive trx else current) := by
  -- A call that comes up twice meets its own row classified the second time.
  induction calls generalizing current with
  | nil => rfl
  | cons call rest ih =>
    have hrest : ∀ call ∈ rest, call.hash = trx.hash → call = trx :=
      fun c hc => hcalls c (List.mem_cons_of_mem _ hc)
    rw [List.map_cons, rowAfterAll, List.foldl_cons]
    by_cases hcall : call = trx
    · rw [hcall, rowAfter_examine hcurrent, if_pos List.mem_cons_self]
      refine (ih (Or.inr rfl) hrest).trans ?_
      rw [ite_self]
    · have hhash : current.hash ≠ call.hash := by
        have hown : current.hash = trx.hash := by
          rcases hcurrent with rfl | rfl
          · rfl
          · exact hash_settled archive trx
        rw [hown]
        exact fun heq => hcall (hcalls call List.mem_cons_self heq.symm)
      have hmem : trx ∈ call :: rest ↔ trx ∈ rest := by
        rw [List.mem_cons, or_iff_right (Ne.symm hcall)]
      rw [rowAfter_examine_of_ne hhash]
      simp only [hmem]
      exact ih hcurrent hrest

/-- **Table**: examining calls of a table settles each of them in its row. -/
theorem examineAll_of_lists (h : archive.store.Lists trxs) (hcalls : ∀ call ∈ calls, call ∈ trxs) :
    (examineAll archive calls).1 =
      { archive with
        store := archive.store.withTransactions
          (trxs.map fun trx => if trx ∈ calls then settled archive trx else trx) } := by
  have hrows : ∀ trx ∈ trxs, rowAfterAll (TransactionRow.ofTransaction trx)
        (calls.map fun call => (examine archive call).value.2)
      = TransactionRow.ofTransaction (if trx ∈ calls then settled archive trx else trx) := by
    intro trx htrx
    have hown : ∀ call ∈ calls, call.hash = trx.hash → call = trx :=
      fun call hcall heq => List.inj_on_of_nodup_map h.nodup (hcalls call hcall) htrx heq
    exact rowAfterAll_examine (Or.inl rfl) hown
  rw [examineAll_fst, examineAll_snd, changeRows, h.transactions, Option.map_some, List.map_map,
    withTransactions, List.map_map]
  simp only [Function.comp_def, List.map_congr_left hrows]

/-! ### Calls of tracked contracts -/

section Offline

variable {s : Store} {config : Config} {source : InfoSource}

theorem contractAt_ofStore (callee : Address) :
    (Archive.ofStore config s source).contractAt callee
      = (s.contractAt callee).mapError (.loading (.contract callee)) := rfl

/-- What calls a contract that the store has a record of is found out about. -/
theorem exists_finds_of_tracks (config : Config) (source : InfoSource)
    (hcall : trx.canBeCall = true) (htracks : s.tracks trx = true) :
    ∃ copy, Finds (.ofStore config s source) trx copy := by
  rw [tracks, Option.any_eq_true] at htracks
  obtain ⟨callee, hrecipient, hknown⟩ := htracks
  rw [Transaction.canBeCall, Bool.and_eq_true, decide_eq_true_eq] at hcall
  split at hknown
  · rename_i contract hcontract
    refine ⟨_, callee, contract, hrecipient, hcall.2, ?_, rfl⟩
    rw [contractAt_ofStore, hcontract]
    rfl
  · exact absurd hknown Bool.false_ne_true

theorem callsUnknown_of_not_tracks (hcall : trx.canBeCall = true)
    (htracks : s.tracks trx = false) : CallsUnknown (.ofStore config s source) trx := by
  rw [Transaction.canBeCall, Bool.and_eq_true, decide_eq_true_eq] at hcall
  obtain ⟨callee, hrecipient⟩ := Option.isSome_iff_exists.mp hcall.1
  refine ⟨callee, hrecipient, hcall.2, fun contract hcontract => ?_⟩
  rw [contractAt_ofStore] at hcontract
  rw [tracks, hrecipient, Option.any_some] at htracks
  cases hfound : s.contractAt callee with
  | error e =>
    rw [hfound] at hcontract
    cases hcontract
  | ok found =>
    rw [hfound] at hcontract htracks
    obtain rfl := Except.ok.inj hcontract
    exact absurd htracks.symm Bool.false_ne_true

theorem writeFailure?_of_lists (h : s.Lists trxs) (htrx : trx ∈ trxs) :
    writeFailure? (.ofStore config s source) trx.hash = none := by
  have hany : (trxs.map TransactionRow.ofTransaction).any (fun row => row.isOf trx.hash)
      = true := by
    rw [List.any_map, List.any_eq_true]
    refine ⟨trx, htrx, ?_⟩
    rw [Function.comp_apply, TransactionRow.isOf_ofTransaction, beq_self_eq_true]
  unfold writeFailure? Archive.ofStore
  dsimp only
  rw [if_neg List.not_mem_nil, h.transactions, h.isReadOnly]
  simp only [hany, if_true]
  rfl

/-- **Outcome**: a stored call is classified exactly if its contract is tracked. -/
theorem examine_of_lists (h : s.Lists trxs) (htrx : trx ∈ trxs) (hcall : trx.canBeCall = true) :
    (examine (.ofStore config s source) trx).value.2
      = if s.tracks trx then .written (settled (.ofStore config s source) trx)
        else .untracked := by
  unfold settled
  cases htracks : s.tracks trx with
  | true =>
    obtain ⟨copy, hfound⟩ := exists_finds_of_tracks config source hcall htracks
    rw [examine_of_finds hfound, writeFailure?_of_lists h htrx]
    rfl
  | false =>
    rw [examine_of_callsUnknown (callsUnknown_of_not_tracks hcall htracks)]
    rfl

end Offline

end Classification

end OffChain
