import OffChain.Store.Row

/-!
# The store

The store is a database of four tables.  A table can be missing, since others have access to the
database too; whatever then uses it fails.  A store can also be open for reading only; then every
change of a table fails.  Withdrawal requests are numbered in the order in which they are offered,
from one on, and a number is never given out twice.

An operation that can fail returns the store that it leads to only if it succeeds, so a failing one
changes nothing.
-/

namespace OffChain

namespace Store

/-- The table of withdrawal requests. -/
structure Ledger where
  /-- The rows in the order of their numbers. -/
  rows : List RequestRow
  /-- The last number that was given out. -/
  lastSeq : Nat
deriving DecidableEq, Repr

namespace Ledger

/-- The ledger that no request was ever offered to. -/
def empty : Ledger :=
  ⟨[], 0⟩

end Ledger

/-- The tables by name. -/
inductive Table where
  | transactions
  | accounts
  | contracts
  | withdrawRequests
deriving DecidableEq, Repr

namespace Table

/-- The table of a name. -/
def ofName? : String → Option Table
  | "transactions" => some transactions
  | "accounts" => some accounts
  | "contracts" => some contracts
  | "withdraw_requests" => some withdrawRequests
  | _ => none

end Table

end Store

/-- The database; a table that is missing is `none`. -/
structure Store where
  /-- Transactions. -/
  transactions : Option (List Store.TransactionRow)
  /-- Accounts. -/
  accounts : Option (List Store.AccountRow)
  /-- Contracts. -/
  contracts : Option (List Store.ContractRow)
  /-- Withdrawal requests. -/
  ledger : Option Store.Ledger
  /-- Whether it is open for reading only. -/
  isReadOnly : Bool
deriving DecidableEq

namespace Store

/-- A database without tables. -/
def blank : Store :=
  ⟨none, none, none, none, false⟩

/-- Creates the tables that are missing, as opening a database does. -/
def complete (s : Store) : Store :=
  { s with
    transactions := some (s.transactions.getD [])
    accounts := some (s.accounts.getD [])
    contracts := some (s.contracts.getD [])
    ledger := some (s.ledger.getD Ledger.empty) }

/-- The fresh store: all tables are there and empty. -/
def empty : Store :=
  blank.complete

/-- Whether all tables are there. -/
def isComplete (s : Store) : Bool :=
  s.transactions.isSome && s.accounts.isSome && s.contracts.isSome && s.ledger.isSome

/-- The content of a table that is to be changed. -/
def writable {α : Type} (s : Store) (table : Option α) : Except StoreError α := do
  let content ← present table
  if s.isReadOnly then .error .readOnly else .ok content

/-- The content of a table that a batch is to be inserted into, of whose rows those are `none` that
cannot be stored.  Nothing is refused before there is a row to write, so an empty batch never is. -/
def insertable {α ρ : Type} (s : Store) (table : Option α) (batch : List (Option ρ)) :
    Except StoreError α :=
  match batch with
  | some _ :: _ => s.writable table
  | _ => present table

/-! ### Row counts -/

/-- The row counts of all tables. -/
structure RowCounts where
  /-- All transactions. -/
  transactions : Nat
  /-- Transactions whose called function is known. -/
  classified : Nat
  /-- Accounts. -/
  accounts : Nat
  /-- Contracts. -/
  contracts : Nat
  /-- Withdrawal requests. -/
  withdrawRequests : Nat
deriving DecidableEq, Repr

/-- One row count, unless the table is missing. -/
def tally? (s : Store) : Tally → Option Nat
  | .transactions => s.transactions.map List.length
  | .classified => s.transactions.map fun rows => rows.countP fun row => row.targetCall.isSome
  | .accounts => s.accounts.map List.length
  | .contracts => s.contracts.map List.length
  | .withdrawRequests => s.ledger.map fun ledger => ledger.rows.length

/-- One row count. -/
def tally (s : Store) (what : Tally) : Except StoreError Nat :=
  match s.tally? what with
  | some n => .ok n
  | none => .error (.tally what .database)

/-- The row counts of all tables. -/
def rowCounts (s : Store) : Except StoreError RowCounts := do
  let transactions ← s.tally .transactions
  let classified ← s.tally .classified
  let accounts ← s.tally .accounts
  let contracts ← s.tally .contracts
  let withdrawRequests ← s.tally .withdrawRequests
  .ok ⟨transactions, classified, accounts, contracts, withdrawRequests⟩

end Store

end OffChain
