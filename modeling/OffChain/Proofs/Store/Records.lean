import OffChain.Proofs.Store.KeyedList
import OffChain.Proofs.Store.RequestLog
import OffChain.Store.Registry

/-!
# Records by value

What the store keeps, without rows and texts: three finite maps and a log.  Each operation of the
store has one here that says what it is meant to do; `perform` is the one for all of them, and
`runAll` performs one operation after the other, on the store or on the records.  An operation that
fails leaves everything as it was.
-/

namespace OffChain

/-- The records of the store by their keys. -/
structure Records where
  /-- Transactions by hash. -/
  transactions : Finmap fun _ : Hash => Transaction
  /-- Accounts by address. -/
  accounts : Finmap fun _ : Address => Account
  /-- Contracts by address. -/
  contracts : Finmap fun _ : Address => Contract
  /-- Withdrawal requests. -/
  requests : RequestLog

namespace Records

/-- No records. -/
def empty : Records :=
  ⟨∅, ∅, ∅, .empty⟩

/-! ### Transactions -/

/-- The transactions with one more of them, unless its hash is known. -/
def learn (known : Finmap fun _ : Hash => Transaction) (trx : Transaction) :
    Finmap fun _ : Hash => Transaction :=
  if (known.lookup trx.hash).isSome then known else known.insert trx.hash trx

/-- Inserts a batch of transactions, all of it or nothing; gives the number of those that were
new. -/
def addTransactions (r : Records) (batch : List Transaction) :
    Except StoreError (Records × Nat) :=
  if batch.all Transaction.isStorable then
    let known := batch.foldl learn r.transactions
    .ok ({ r with transactions := known }, known.keys.card - r.transactions.keys.card)
  else .error .database

/-- A transaction with the classification of another one, and otherwise as it was. -/
def reclassify (trx old : Transaction) : Transaction :=
  { old with
    targetType := trx.targetType
    targetCall := trx.targetCall
    isErc20Call := trx.isErc20Call }

/-- Writes the classification of a transaction onto that of the same hash. -/
def writeClassification (r : Records) (trx : Transaction) : Except StoreError Records :=
  match r.transactions.lookup trx.hash with
  | some old =>
    .ok { r with transactions := r.transactions.insert trx.hash (reclassify trx old) }
  | none => .error (.unknownTransaction trx.hash)

/-! ### Accounts and contracts -/

/-- Keeps an account. -/
def keepAccount (r : Records) (account : Account) : Records :=
  { r with accounts := r.accounts.insert account.address account }

/-- Keeps a contract. -/
def keepContract (r : Records) (contract : Contract) : Records :=
  { r with contracts := r.contracts.insert contract.address contract }

/-- A contract as it is given out: the empty text is no description. -/
def givenOut (contract : Contract) : Contract :=
  { contract with abi := contract.abi.filter fun abi => !abi.isEmpty }

/-- The contract of an address. -/
def contractAt (r : Records) (address : Address) : Option Contract :=
  (r.contracts.lookup address).map givenOut

/-! ### Withdrawal requests -/

/-- Inserts a batch of requests, all of it or nothing; gives the number of those that were new. -/
def addRequests (r : Records) (batch : List WithdrawRequest) :
    Except StoreError (Records × Nat) :=
  if r.requests.accepts batch then
    let log := r.requests.take batch
    .ok ({ r with requests := log }, log.entries.length - r.requests.entries.length)
  else .error .database

/-! ### Counts -/

/-- The number of records of every kind. -/
def rowCounts (r : Records) : Store.RowCounts :=
  { transactions := r.transactions.keys.card
    classified :=
      (r.transactions.keys.filter fun hash =>
        (r.transactions.lookup hash).any fun trx => trx.targetCall.isSome).card
    accounts := r.accounts.keys.card
    contracts := r.contracts.keys.card
    withdrawRequests := r.requests.entries.length }

end Records

/-! ### Operations -/

/-- What changes the store. -/
inductive Operation where
  | addTransactions (batch : List Transaction)
  | writeClassification (trx : Transaction)
  | keepAccount (account : Account)
  | keepContract (contract : Contract)
  | addRequests (batch : List WithdrawRequest)

/-- Performs an operation on the store; gives the number of new rows if it counts them. -/
def Store.perform (s : Store) : Operation → Except StoreError (Store × Option Nat)
  | .addTransactions batch => (s.addTransactions batch).map fun (s, n) => (s, some n)
  | .writeClassification trx => (s.writeClassification trx).map fun s => (s, none)
  | .keepAccount account => (s.keepAccount account).map fun s => (s, none)
  | .keepContract contract => (s.keepContract contract).map fun s => (s, none)
  | .addRequests batch => (s.addRequests batch).map fun (s, n) => (s, some n)

/-- Performs an operation on the records; gives the number of new ones if it counts them. -/
def Records.perform (r : Records) : Operation → Except StoreError (Records × Option Nat)
  | .addTransactions batch => (r.addTransactions batch).map fun (r, n) => (r, some n)
  | .writeClassification trx => (r.writeClassification trx).map fun r => (r, none)
  | .keepAccount account => .ok (r.keepAccount account, none)
  | .keepContract contract => .ok (r.keepContract contract, none)
  | .addRequests batch => (r.addRequests batch).map fun (r, n) => (r, some n)

/-- Performs some operations, first one first; gives the state that they lead to and the answer to
each of them.  An operation that fails leaves the state as it is. -/
def runAll {σ : Type} (perform : σ → Operation → Except StoreError (σ × Option Nat)) :
    σ → List Operation → σ × List (Except StoreError (Option Nat))
  | state, [] => (state, [])
  | state, op :: ops =>
    match perform state op with
    | .ok (next, n) =>
      let (final, answers) := runAll perform next ops
      (final, .ok n :: answers)
    | .error e =>
      let (final, answers) := runAll perform state ops
      (final, .error e :: answers)

end OffChain
