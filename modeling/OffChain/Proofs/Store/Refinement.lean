import OffChain.Proofs.Store.Records

/-!
# The store refines its records

A store holds some records if the rows of each table are those of a list of records, no two of one
key, that is the finite map.  Every operation keeps this (`Store.perform_agrees`): it fails on the
store exactly if it fails on the records, with the same error, and otherwise gives the same number
and leads to a store that holds the new records.

* `store_answers_as_records`: whatever was done to a fresh store, failures included, each operation
  was answered as the records answer it, and transactions, accounts, contracts and row counts read
  as they do in the records.
-/

namespace OffChain

namespace Store

variable {s : Store} {r : Records}

/-- What a store has to do with the records that it holds. -/
structure Holds (s : Store) (r : Records) : Prop where
  /-- It takes changes. -/
  isReadOnly : s.isReadOnly = false
  /-- Its transactions. -/
  transactions : ∃ trxs, s.transactions = some (trxs.map TransactionRow.ofTransaction) ∧
    IsTableOf Transaction.hash trxs r.transactions
  /-- Its accounts. -/
  accounts : ∃ accounts, s.accounts = some (accounts.map AccountRow.ofAccount) ∧
    IsTableOf Account.address accounts r.accounts
  /-- Its contracts. -/
  contracts : ∃ contracts, s.contracts = some (contracts.map ContractRow.ofContract) ∧
    IsTableOf Contract.address contracts r.contracts
  /-- Its ledger. -/
  ledger : s.ledger = some r.requests.toLedger
  /-- The log is one that can be reached. -/
  sound : r.requests.Sound

theorem holds_empty : empty.Holds Records.empty where
  isReadOnly := rfl
  transactions := ⟨[], rfl, .empty _⟩
  accounts := ⟨[], rfl, .empty _⟩
  contracts := ⟨[], rfl, .empty _⟩
  ledger := rfl
  sound := RequestLog.empty_sound

/-! ### Inserting transactions -/

/-- A transaction that can be stored: its row goes to the end if its hash is new. -/
theorem insertRow_ofTransaction {trxs : List Transaction}
    {known : Finmap fun _ : Hash => Transaction}
    (h : IsTableOf Transaction.hash trxs known) {trx : Transaction} (htrx : trx.isStorable = true) :
    ∃ trxs' n, insertRow (trxs.map TransactionRow.ofTransaction) trx
        = .ok (trxs'.map TransactionRow.ofTransaction, n) ∧
      IsTableOf Transaction.hash trxs' (Records.learn known trx) ∧
      trxs'.length = trxs.length + n := by
  have hany : (trxs.map TransactionRow.ofTransaction).any
      (fun row => row.hash == (TransactionRow.ofTransaction trx).hash)
        = (known.lookup trx.hash).isSome :=
    h.any_map fun t => TransactionRow.isOf_ofTransaction t trx.hash
  unfold insertRow Records.learn
  rw [TransactionRow.of?_eq, if_pos htrx]
  simp only [hany]
  cases hknown : (known.lookup trx.hash).isSome with
  | true => exact ⟨trxs, 0, rfl, h, rfl⟩
  | false =>
    have hnone : known.lookup trx.hash = none := by simpa using hknown
    refine ⟨trxs ++ [trx], 1, ?_, ?_, List.length_append⟩
    · rw [List.map_append]
      rfl
    · exact h.insert_new (h.key_ne_of_lookup_eq_none hnone)

/-- **Simulation**: a batch of transactions that can be stored. -/
theorem insertRows_ofTransaction {trxs : List Transaction}
    {known : Finmap fun _ : Hash => Transaction} (h : IsTableOf Transaction.hash trxs known)
    {batch : List Transaction} (hbatch : batch.all Transaction.isStorable = true) :
    ∃ trxs' n, insertRows (trxs.map TransactionRow.ofTransaction) batch
        = .ok (trxs'.map TransactionRow.ofTransaction, n) ∧
      IsTableOf Transaction.hash trxs' (batch.foldl Records.learn known) ∧
      trxs'.length = trxs.length + n := by
  induction batch generalizing trxs known with
  | nil => exact ⟨trxs, 0, rfl, h, rfl⟩
  | cons trx batch ih =>
    rw [List.all_cons, Bool.and_eq_true] at hbatch
    -- The rest of the batch meets the table with this transaction in it, so a hash that occurs
    -- twice in the batch is known the second time.
    obtain ⟨trxs₁, n, hrow, htable, hlength⟩ := insertRow_ofTransaction h hbatch.1
    obtain ⟨trxs₂, m, hrows, htable', hlength'⟩ := ih htable hbatch.2
    refine ⟨trxs₂, n + m, ?_, htable', by omega⟩
    rw [insertRows, hrow]
    show (insertRows (trxs₁.map TransactionRow.ofTransaction) batch >>= _) = _
    rw [hrows]
    rfl

/-- A batch with a transaction that cannot be stored fails, wherever that stands. -/
theorem insertRows_eq_error (rows : List TransactionRow) {batch : List Transaction}
    (hbatch : ¬batch.all Transaction.isStorable = true) :
    insertRows rows batch = .error .database := by
  -- What the transactions before it leave does not matter: the batch fails as a whole.
  induction batch generalizing rows with
  | nil => exact absurd rfl hbatch
  | cons trx batch ih =>
    rw [insertRows, insertRow, TransactionRow.of?_eq]
    by_cases htrx : trx.isStorable = true
    · have hrest : ¬batch.all Transaction.isStorable = true := by
        intro hall
        exact hbatch (by rw [List.all_cons, htrx, hall]; rfl)
      rw [if_pos htrx]
      dsimp only
      split
      · show (insertRows rows batch >>= _) = _
        rw [ih rows hrest]
        rfl
      · show (insertRows (rows ++ [TransactionRow.ofTransaction trx]) batch >>= _) = _
        rw [ih _ hrest]
        rfl
    · rw [if_neg htrx]
      rfl

/-! ### What an operation does -/

/-- What the results of an operation on a store and on records have in common. -/
def Agrees : Except StoreError (Store × Option Nat) → Except StoreError (Records × Option Nat) →
    Prop
  | .ok (s, n), .ok (r, m) => n = m ∧ s.Holds r
  | .error e, .error f => e = f
  | _, _ => False

theorem addTransactions_agrees (h : s.Holds r) (batch : List Transaction) :
    Agrees (s.perform (.addTransactions batch)) (r.perform (.addTransactions batch)) := by
  obtain ⟨trxs, hrows, htable⟩ := h.transactions
  simp only [perform, addTransactions, hrows, insertable_some h.isReadOnly, Records.perform,
    Records.addTransactions]
  by_cases hbatch : batch.all Transaction.isStorable = true
  · obtain ⟨trxs', n, hinsert, htable', hlength⟩ := insertRows_ofTransaction htable hbatch
    have hn : (batch.foldl Records.learn r.transactions).keys.card - r.transactions.keys.card
        = n := by
      rw [htable'.card_keys, htable.card_keys]
      omega
    rw [if_pos hbatch, hn]
    show Agrees (((insertRows _ batch >>= _) : Except StoreError (Store × Nat)).map _) _
    rw [hinsert]
    exact ⟨rfl, { h with transactions := ⟨trxs', rfl, htable'⟩ }⟩
  · rw [if_neg hbatch]
    show Agrees (((insertRows _ batch >>= _) : Except StoreError (Store × Nat)).map _) _
    rw [insertRows_eq_error _ hbatch]
    exact rfl

theorem classifiedAs_ofTransaction (trx old : Transaction) :
    (TransactionRow.ofTransaction old).classifiedAs trx
      = TransactionRow.ofTransaction (Records.reclassify trx old) := rfl

/-- Writing a classification into the rows of transactions. -/
theorem map_classifiedAs (trxs : List Transaction) (trx : Transaction) :
    ((trxs.map TransactionRow.ofTransaction).map fun row =>
        if row.isOf trx.hash then row.classifiedAs trx else row)
      = (trxs.map fun t => if t.hash == trx.hash then Records.reclassify trx t else t).map
          TransactionRow.ofTransaction := by
  rw [List.map_map, List.map_map]
  refine List.map_congr_left fun t _ => ?_
  simp only [Function.comp_apply, TransactionRow.isOf_ofTransaction]
  split
  · exact classifiedAs_ofTransaction trx t
  · rfl

theorem writeClassification_agrees (h : s.Holds r) (trx : Transaction) :
    Agrees (s.perform (.writeClassification trx)) (r.perform (.writeClassification trx)) := by
  obtain ⟨trxs, hrows, htable⟩ := h.transactions
  have hany : (trxs.map TransactionRow.ofTransaction).any (fun row => row.isOf trx.hash)
      = (r.transactions.lookup trx.hash).isSome :=
    htable.any_map fun t => TransactionRow.isOf_ofTransaction t trx.hash
  simp only [perform, writeClassification, hrows, writable_some h.isReadOnly, Records.perform,
    Records.writeClassification]
  cases hold : r.transactions.lookup trx.hash with
  | none =>
    rw [hold] at hany
    show Agrees ((if _ then _ else _ : Except StoreError Store).map _) _
    rw [hany]
    exact rfl
  | some old =>
    rw [hold] at hany
    show Agrees ((if _ then _ else _ : Except StoreError Store).map _) _
    rw [hany, map_classifiedAs]
    -- The hash is not among the columns that change, so the row stays that of its key.
    have htable' := htable.insert_modify (f := Records.reclassify trx) (fun _ => rfl) hold
    exact ⟨rfl, { h with transactions := ⟨_, rfl, htable'⟩ }⟩

/-- Putting a row in the place of others is putting a record in the place of those of its key. -/
theorem filter_map_append {α ρ : Type} (row : α → ρ) {isKept : ρ → Bool} {isOther : α → Bool}
    (h : ∀ a, isKept (row a) = isOther a) (records : List α) (a : α) :
    (records.map row).filter isKept ++ [row a] = (records.filter isOther ++ [a]).map row := by
  rw [List.filter_map, List.map_append, List.map_singleton]
  have hsame : isKept ∘ row = isOther := funext h
  rw [hsame]

theorem keepAccount_agrees (h : s.Holds r) (account : Account) :
    Agrees (s.perform (.keepAccount account)) (r.perform (.keepAccount account)) := by
  obtain ⟨accounts, hrows, htable⟩ := h.accounts
  have hkept : ∀ a, ((AccountRow.ofAccount a).address.isNone
      || (AccountRow.ofAccount a).address != some (.text account.address.toText))
        = (a.address != account.address) := by
    intro a
    show (!((AccountRow.ofAccount a).address == some (.text account.address.toText))) = _
    rw [AccountRow.address_ofAccount]
    rfl
  have hput : putAccount (accounts.map AccountRow.ofAccount) (.ofAccount account)
      = (accounts.filter (fun a => a.address != account.address) ++ [account]).map
          AccountRow.ofAccount :=
    filter_map_append AccountRow.ofAccount hkept accounts account
  simp only [perform, keepAccount, hrows, writable_some h.isReadOnly, Records.perform]
  refine ⟨rfl, { h with accounts := ⟨_, ?_, htable.insert_put account⟩ }⟩
  exact congrArg some hput

theorem keepContract_agrees (h : s.Holds r) (contract : Contract) :
    Agrees (s.perform (.keepContract contract)) (r.perform (.keepContract contract)) := by
  obtain ⟨contracts, hrows, htable⟩ := h.contracts
  have hkept : ∀ c, ((ContractRow.ofContract c).address.isNone
      || (ContractRow.ofContract c).address != some (.text contract.address.toText))
        = (c.address != contract.address) := by
    intro c
    show (!((ContractRow.ofContract c).address == some (.text contract.address.toText))) = _
    rw [ContractRow.address_ofContract]
    rfl
  have hput : putContract (contracts.map ContractRow.ofContract) (.ofContract contract)
      = (contracts.filter (fun c => c.address != contract.address) ++ [contract]).map
          ContractRow.ofContract :=
    filter_map_append ContractRow.ofContract hkept contracts contract
  simp only [perform, keepContract, hrows, writable_some h.isReadOnly, Records.perform]
  refine ⟨rfl, { h with contracts := ⟨_, ?_, htable.insert_put contract⟩ }⟩
  exact congrArg some hput

theorem addRequests_agrees (h : s.Holds r) (batch : List WithdrawRequest) :
    Agrees (s.perform (.addRequests batch)) (r.perform (.addRequests batch)) := by
  rw [perform, addRequests_eq r.requests h.ledger h.isReadOnly h.sound.lastSeq_le, Records.perform,
    Records.addRequests]
  by_cases haccepts : r.requests.accepts batch = true
  · rw [if_pos haccepts, if_pos haccepts]
    exact ⟨rfl, { h with ledger := rfl, sound := RequestLog.take_sound h.sound batch }⟩
  · rw [if_neg haccepts, if_neg haccepts]
    exact rfl

/-- **Step**: on a store that holds some records every operation does what it does on the
records. -/
theorem perform_agrees (h : s.Holds r) (op : Operation) :
    Agrees (s.perform op) (r.perform op) := by
  cases op with
  | addTransactions batch => exact addTransactions_agrees h batch
  | writeClassification trx => exact writeClassification_agrees h trx
  | keepAccount account => exact keepAccount_agrees h account
  | keepContract contract => exact keepContract_agrees h contract
  | addRequests batch => exact addRequests_agrees h batch

/-- **Invariant**: a store that holds some records answers any operations as the records do, and
holds what they become. -/
theorem runAll_agrees (h : s.Holds r) (ops : List Operation) :
    (runAll perform s ops).1.Holds (runAll Records.perform r ops).1 ∧
      (runAll perform s ops).2 = (runAll Records.perform r ops).2 := by
  induction ops generalizing s r with
  | nil => exact ⟨h, rfl⟩
  | cons op ops ih =>
    have hstep := perform_agrees h op
    rw [runAll, runAll]
    cases hs : s.perform op with
    | ok result =>
      cases hr : r.perform op with
      | ok meant =>
        rw [hs, hr] at hstep
        obtain ⟨hn, hholds⟩ := hstep
        obtain ⟨hfinal, hanswers⟩ := ih hholds
        exact ⟨hfinal, congrArg₂ List.cons (congrArg Except.ok hn) hanswers⟩
      | error e =>
        rw [hs, hr] at hstep
        exact hstep.elim
    | error e =>
      cases hr : r.perform op with
      | ok meant =>
        rw [hs, hr] at hstep
        exact hstep.elim
      | error f =>
        rw [hs, hr] at hstep
        obtain ⟨hfinal, hanswers⟩ := ih h
        exact ⟨hfinal, congrArg₂ List.cons (congrArg Except.error hstep) hanswers⟩

/-! ### Reading -/

/-- The transaction of a hash, in all its fields. -/
theorem Holds.findTransaction_eq (h : s.Holds r) (hash : Hash) :
    s.findTransaction hash = .ok (r.transactions.lookup hash) := by
  obtain ⟨trxs, hrows, htable⟩ := h.transactions
  have hfind : (trxs.map TransactionRow.ofTransaction).find? (fun row => row.isOf hash)
      = (r.transactions.lookup hash).map TransactionRow.ofTransaction :=
    htable.find?_map fun t => TransactionRow.isOf_ofTransaction t hash
  unfold findTransaction
  rw [hrows]
  dsimp only [present, bind, Except.bind]
  rw [hfind]
  cases r.transactions.lookup hash with
  | none => rfl
  | some trx =>
    show ((TransactionRow.ofTransaction trx).columns >>= _) = _
    rw [TransactionRow.columns_ofTransaction]
    show ((TransactionRow.typedOf trx).decode >>= _) = _
    rw [TransactionRow.decode_typedOf]
    rfl

theorem Holds.accountAt_eq (h : s.Holds r) (address : Address) :
    s.accountAt address = .ok (r.accounts.lookup address) := by
  obtain ⟨accounts, hrows, htable⟩ := h.accounts
  have hfind : (accounts.map AccountRow.ofAccount).find?
      (fun row => row.address == some (.text address.toText))
        = (r.accounts.lookup address).map AccountRow.ofAccount :=
    htable.find?_map fun a => AccountRow.address_ofAccount a address
  unfold accountAt
  rw [hrows]
  dsimp only [present, bind, Except.bind]
  rw [hfind]
  cases hlookup : r.accounts.lookup address with
  | none => rfl
  | some account =>
    obtain ⟨-, haddress⟩ := (htable.lookup_iff address account).mp hlookup
    show Except.ok (some (⟨address, AccountType.ofTag account.accountType.tag⟩ : Account)) = _
    rw [AccountType.ofTag_tag, ← haddress]

theorem Holds.contractAt_eq (h : s.Holds r) (address : Address) :
    s.contractAt address = .ok (r.contractAt address) := by
  obtain ⟨contracts, hrows, htable⟩ := h.contracts
  have hfind : (contracts.map ContractRow.ofContract).find?
      (fun row => row.address == some (.text address.toText))
        = (r.contracts.lookup address).map ContractRow.ofContract :=
    htable.find?_map fun c => ContractRow.address_ofContract c address
  unfold contractAt Records.contractAt
  rw [hrows]
  dsimp only [present, bind, Except.bind]
  rw [hfind]
  cases hlookup : r.contracts.lookup address with
  | none => rfl
  | some contract =>
    obtain ⟨-, haddress⟩ := (htable.lookup_iff address contract).mp hlookup
    show ((contract.abi.map TextCell.text).mapM someText >>= _) = _
    rw [mapM_someText, ← haddress]
    rfl

theorem Holds.rowCounts_eq (h : s.Holds r) : s.rowCounts = .ok r.rowCounts := by
  obtain ⟨trxs, htrxs, htransactions⟩ := h.transactions
  obtain ⟨accounts, haccounts, htable⟩ := h.accounts
  obtain ⟨contracts, hcontracts, htable'⟩ := h.contracts
  have hlog : r.requests.toLedger.rows.length = r.requests.entries.length := List.length_map _
  unfold rowCounts tally tally? Records.rowCounts
  rw [htrxs, haccounts, hcontracts, h.ledger, htransactions.card_keys, htransactions.card_filter,
    htable.card_keys, htable'.card_keys]
  simp only [Option.map_some, List.length_map, TransactionRow.countP_ofTransaction, hlog]
  rfl

end Store

/-- **Refinement**: whatever was done to a fresh store, each operation is answered as the records
answer it, and what can be read of it is what the records say. -/
theorem store_answers_as_records (ops : List Operation) :
    (runAll Store.perform .empty ops).2 = (runAll Records.perform .empty ops).2 ∧
      (∀ hash, (runAll Store.perform .empty ops).1.findTransaction hash
        = .ok ((runAll Records.perform .empty ops).1.transactions.lookup hash)) ∧
      (∀ address, (runAll Store.perform .empty ops).1.accountAt address
        = .ok ((runAll Records.perform .empty ops).1.accounts.lookup address)) ∧
      (∀ address, (runAll Store.perform .empty ops).1.contractAt address
        = .ok ((runAll Records.perform .empty ops).1.contractAt address)) ∧
      (runAll Store.perform .empty ops).1.rowCounts
        = .ok (runAll Records.perform .empty ops).1.rowCounts := by
  obtain ⟨hholds, hanswers⟩ := Store.runAll_agrees Store.holds_empty ops
  exact ⟨hanswers, hholds.findTransaction_eq, hholds.accountAt_eq, hholds.contractAt_eq,
    hholds.rowCounts_eq⟩

end OffChain
