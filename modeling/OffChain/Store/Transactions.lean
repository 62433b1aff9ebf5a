import OffChain.Store.Basic

/-!
# Transactions in the store

Transactions are inserted in batches and named by their hash: a hash that is known already is
passed over.  Later only the three fields of the classification change.
-/

namespace OffChain.Store

/-! ### Inserting -/

/-- The table with one more transaction, and how many rows that adds: none if its hash is known. -/
def insertRow (rows : List TransactionRow) (trx : Transaction) :
    Except StoreError (List TransactionRow × Nat) :=
  match TransactionRow.of? trx with
  | none => .error .database
  | some row =>
    if rows.any fun r => r.hash == row.hash then .ok (rows, 0) else .ok (rows ++ [row], 1)

/-- The table with some more transactions, and how many rows they add. -/
def insertRows : List TransactionRow → List Transaction →
    Except StoreError (List TransactionRow × Nat)
  | rows, [] => .ok (rows, 0)
  | rows, trx :: rest => do
    let (rows, n) ← insertRow rows trx
    let (rows, m) ← insertRows rows rest
    .ok (rows, n + m)

/-- Inserts a batch of transactions; gives the number of those that were new. -/
def addTransactions (s : Store) (batch : List Transaction) :
    Except StoreError (Store × Nat) := do
  let rows ← s.insertable s.transactions (batch.map TransactionRow.of?)
  let (rows, n) ← insertRows rows batch
  .ok ({ s with transactions := some rows }, n)

/-! ### Reading -/

/-- The transaction of a hash. -/
def findTransaction (s : Store) (hash : Hash) : Except StoreError (Option Transaction) := do
  let rows ← present s.transactions
  match rows.find? fun row => row.isOf hash with
  | none => .ok none
  | some row => do
    let columns ← row.columns
    let trx ← columns.decode
    .ok (some trx)

/-- The first rows of a list; a limit that no integer column can hold is none. -/
def limited {α : Type} (limit : UInt64) (rows : List α) : List α :=
  if limit.toNat ≤ maxInteger then rows.take limit.toNat else rows

/-- The rows that look like calls of contracts and have not been classified, in listing order. -/
def pendingRows (rows : List TransactionRow) : List TransactionRow :=
  (rows.filter TransactionRow.isPending).mergeSort TransactionRow.le

/-- The transactions that look like calls of contracts and have not been classified, at most
`limit` of them, by block and hash. -/
def pendingCalls (s : Store) (limit : UInt64) : Except StoreError (List Transaction) := do
  let rows ← present s.transactions
  TransactionRow.decodeAll (limited limit (pendingRows rows))

/-! ### Updating -/

/-- A row with the classification of a transaction. -/
def TransactionRow.classifiedAs (row : TransactionRow) (trx : Transaction) : TransactionRow :=
  { row with
    targetType := trx.targetType.map fun t => .text t.tag
    targetCall := trx.targetCall.map .text
    isErc20Call := .ofBool trx.isErc20Call }

/-- Writes the classification of a transaction into the row of its hash. -/
def writeClassification (s : Store) (trx : Transaction) : Except StoreError Store := do
  let rows ← s.writable s.transactions
  if rows.any fun row => row.isOf trx.hash then
    .ok { s with
      transactions := some <| rows.map fun row =>
        if row.isOf trx.hash then row.classifiedAs trx else row }
  else .error (.unknownTransaction trx.hash)

end OffChain.Store
