import OffChain.Store.Registry

/-!
# Writing past the store

Whoever else has access to the database writes columns as they like; the database alone has a say.
It keeps bytes in any column.  In text columns it keeps texts and writes a number given for one by
its digits; in integer columns it keeps numbers and takes a text given for one as a number where it
is one, and as an integer where that is one.  A number of double precision can be given by its
digits, so it is no value of its own.  The database refuses to leave out what a table declares as
required and to repeat the key of a withdrawal request; a row without a key, however, has no other
row's key.
-/

namespace OffChain.Store

/-! ### Values -/

/-- A value that is given for a column. -/
inductive Value where
  | null
  | integer (i : Int)
  | text (s : String)
  | blob (bs : Bytes)
deriving DecidableEq, Repr

namespace Value

/-- The greatest number of double precision that is taken as an integer. -/
def maxIntegral : Nat :=
  9223372036854774784

/-- What an integer column keeps of a number of double precision. -/
def cellOfBinary (x : Binary) : Cell :=
  let (n, isIntegral) := Binary.floor ⟨x.mantissa.natAbs, x.exponent⟩
  if isIntegral && n ≤ maxIntegral then .integer (if x.mantissa < 0 then -(n : Int) else n)
  else .real x

/-- What an integer column keeps of a numeral. -/
def cellOfNumeral (n : Numeral) : Cell :=
  match n.integer?.filter isStorable with
  | some i => .integer i
  | none => cellOfBinary n.value

/-- What an integer column keeps of a value. -/
def toCell : Value → Cell
  | null => .null
  | integer i => .integer i
  | text s => (Numeral.ofChars? s.toList).elim (.text s) cellOfNumeral
  | blob bs => .blob bs

/-- What a text column keeps of a value, if that is one. -/
def toTextCell? : Value → Option TextCell
  | null => none
  | integer i => some (.text (Decimal.intText i))
  | text s => some (.text s)
  | blob bs => some (.blob bs)

end Value

/-! ### Columns -/

/-- The columns of a row by name; a column that is left out is empty. -/
abbrev Columns := List (String × Value)

namespace Columns

/-- The value of a column. -/
def get (columns : Columns) (name : String) : Value :=
  ((columns.find? fun c => c.1 == name).map fun c => c.2).getD .null

/-- A text column. -/
def text? (columns : Columns) (name : String) : Option TextCell :=
  (columns.get name).toTextCell?

/-- A text column that is required. -/
def text (columns : Columns) (name : String) : Except StoreError TextCell :=
  present (columns.text? name)

/-- An integer column. -/
def integer (columns : Columns) (name : String) : Cell :=
  (columns.get name).toCell

/-- An integer column that is required. -/
def someInteger (columns : Columns) (name : String) : Except StoreError Cell :=
  match columns.integer name with
  | .null => .error .database
  | cell => .ok cell

end Columns

/-! ### Rows -/

/-- Writes a row into the table of transactions, in the place of that of the same hash. -/
def writeTransaction (s : Store) (columns : Columns) : Except StoreError Store := do
  let rows ← s.writable s.transactions
  let hash := columns.text? "hash"
  let sender ← columns.text "from_address"
  let input ← columns.text "input_data"
  let isErc20Call :=
    match columns.integer "is_erc20_call" with
    | .null => .integer 0
    | cell => cell
  let row : TransactionRow :=
    { hash := hash
      blockNumber := columns.integer "block_number"
      sender := sender
      recipient := columns.text? "to_address"
      input := input
      targetType := columns.text? "target_contract_type"
      targetCall := columns.text? "target_function_call"
      isErc20Call := isErc20Call }
  let kept := rows.filter fun r => r.hash.isNone || r.hash != hash
  .ok { s with transactions := some (kept ++ [row]) }

/-- Writes a row into the table of accounts, in the place of that of the same address. -/
def writeAccount (s : Store) (columns : Columns) : Except StoreError Store := do
  let rows ← s.writable s.accounts
  let accountType ← columns.text "account_type"
  .ok { s with accounts := some (putAccount rows ⟨columns.text? "address", accountType⟩) }

/-- Writes a row into the table of contracts, in the place of that of the same address. -/
def writeContract (s : Store) (columns : Columns) : Except StoreError Store := do
  let rows ← s.writable s.contracts
  let contractType ← columns.text "contract_type"
  let row : ContractRow := ⟨columns.text? "address", contractType, columns.text? "abi"⟩
  .ok { s with contracts := some (putContract rows row) }

/-- Writes a row into the table of withdrawal requests, under the next number. -/
def writeWithdrawRequest (s : Store) (columns : Columns) : Except StoreError Store := do
  let ledger ← s.writable s.ledger
  let requestId ← columns.text "request_id"
  let address ← columns.text "address"
  let stakerId ← columns.text "staker_id"
  let amount ← columns.text "amount"
  let createdTime ← columns.someInteger "created_time"
  let row : RequestRow :=
    { seq := ledger.lastSeq + 1
      requestId := requestId
      address := address
      stakerId := stakerId
      amount := amount
      createdTime := createdTime
      withdrawTime := columns.integer "withdraw_time" }
  if maxInteger ≤ ledger.lastSeq || ledger.rows.any row.sameKey then .error .database
  else .ok { s with ledger := some ⟨ledger.rows ++ [row], ledger.lastSeq + 1⟩ }

/-! ### Tables -/

/-- Removes a table; one that is missing cannot be removed. -/
def dropTable (s : Store) : Table → Except StoreError Store
  | .transactions => (s.writable s.transactions).map fun _ => { s with transactions := none }
  | .accounts => (s.writable s.accounts).map fun _ => { s with accounts := none }
  | .contracts => (s.writable s.contracts).map fun _ => { s with contracts := none }
  | .withdrawRequests => (s.writable s.ledger).map fun _ => { s with ledger := none }

end OffChain.Store
