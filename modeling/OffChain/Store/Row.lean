import OffChain.Record.Account
import OffChain.Record.Transaction
import OffChain.Record.Withdrawal
import OffChain.Store.Error
import OffChain.Store.Numeral

/-!
# Rows

The tables hold hashes, addresses, byte strings and 256-bit numbers as texts.  Tables can be written
past the store, so an integer column can also hold a number that is no integer or a text that is no
number, any column can hold bytes, and the hash of a transaction and the address of an account or a
contract can be missing.  Reading a row goes in two steps: its columns are taken out with the types
that they should have, which the database itself may refuse, and then their texts are decoded.
-/

namespace OffChain.Store

/-! ### Integer columns -/

/-- The greatest integer that an integer column can hold. -/
def maxInteger : Nat := 0x7FFFFFFFFFFFFFFF

/-- Whether an integer column can hold an integer. -/
def isStorable (i : Int) : Bool :=
  decide (-(maxInteger : Int) - 1 ≤ i) && decide (i ≤ maxInteger)

/-- The order of byte strings: by the first byte that differs. -/
def bytesLe : Bytes → Bytes → Bool
  | [], _ => true
  | _ :: _, [] => false
  | a :: as, b :: bs => a < b || (a == b && bytesLe as bs)

/-- What stands in an integer column. -/
inductive Cell where
  | null
  | integer (i : Int)
  | real (x : Binary)
  | text (s : String)
  | blob (bs : Bytes)
deriving DecidableEq, Repr

namespace Cell

/-- The cell of a number of 64 bits, if it can hold it. -/
def ofUInt64? (n : UInt64) : Option Cell :=
  if n.toNat ≤ maxInteger then some (integer n.toNat) else none

/-- The cell of a number of 64 bits that may be absent. -/
def ofOption? : Option UInt64 → Option Cell
  | none => some null
  | some n => ofUInt64? n

/-- The cell of a truth value. -/
def ofBool (b : Bool) : Cell :=
  integer (if b then 1 else 0)

/-- A cell that has to hold a number of 64 bits. -/
def toUInt64 : Cell → Except StoreError UInt64
  | integer i => if 0 ≤ i then .ok (UInt64.ofNat i.toNat) else .error .database
  | _ => .error .database

/-- A cell that may be empty and otherwise has to hold a number of 64 bits. -/
def toOption : Cell → Except StoreError (Option UInt64)
  | null => .ok none
  | c => c.toUInt64.map some

/-- A cell that has to hold an integer, any but zero meaning that the flag is set. -/
def toBool : Cell → Except StoreError Bool
  | integer i => .ok (i != 0)
  | _ => .error .database

/-- Where cells of a kind stand: nothing comes before numbers, these before texts, and texts before
bytes. -/
def kindRank : Cell → Nat
  | null => 0
  | integer _ => 1
  | real _ => 1
  | text _ => 2
  | blob _ => 3

/-- The order of cells: by their kinds, and those of one kind by what they hold. -/
def le : Cell → Cell → Bool
  | integer i, integer j => i ≤ j
  | integer i, real y => (Binary.ofInt i).le y
  | real x, integer j => x.le (Binary.ofInt j)
  | real x, real y => x.le y
  | text s, text t => s ≤ t
  | blob as, blob bs => bytesLe as bs
  | a, b => a.kindRank ≤ b.kindRank

/-- Whether two cells are of the same rank in the order. -/
def isLevelWith (a b : Cell) : Bool :=
  a.le b && b.le a

end Cell

/-! ### Text columns -/

/-- What stands in a text column that is not empty. -/
inductive TextCell where
  | text (s : String)
  | blob (bs : Bytes)
deriving DecidableEq, Repr

namespace TextCell

/-- The text, if it is one. -/
def text? : TextCell → Option String
  | text s => some s
  | blob _ => none

/-- The number of characters of a text, up to a character U+0000, and of the bytes of a byte
string. -/
def length : TextCell → Nat
  | text s => (s.toList.takeWhile fun c => c.toNat != 0).length
  | blob bs => bs.length

/-- The order of texts and byte strings: texts come first. -/
def le : TextCell → TextCell → Bool
  | text s, text t => s ≤ t
  | text _, blob _ => true
  | blob _, text _ => false
  | blob as, blob bs => bytesLe as bs

end TextCell

/-- A value that has to be there. -/
def present {α : Type} : Option α → Except StoreError α
  | some a => .ok a
  | none => .error .database

/-- A column that has to hold a text. -/
def someText (c : TextCell) : Except StoreError String :=
  present c.text?

/-- An address column. -/
def decodeAddress (s : String) : Except StoreError Address :=
  match FixedBytes.ofText? s with
  | some a => .ok a
  | none => .error (.malformedAddress s)

/-- A column that holds a 256-bit number. -/
def decodeNumber (s : String) : Except StoreError UInt256 :=
  match UInt256.ofText? s with
  | some n => .ok n
  | none => .error (.malformedNumber s)

/-! ### Transactions -/

/-- A row of the table of transactions. -/
structure TransactionRow where
  hash : Option TextCell
  blockNumber : Cell
  sender : TextCell
  recipient : Option TextCell
  input : TextCell
  targetType : Option TextCell
  targetCall : Option TextCell
  isErc20Call : Cell
deriving DecidableEq, Repr

namespace TransactionRow

/-- The row of a transaction, if its block number can be stored. -/
def of? (trx : Transaction) : Option TransactionRow :=
  (Cell.ofOption? trx.blockNumber).map fun block =>
    { hash := some (.text trx.hash.toText)
      blockNumber := block
      sender := .text trx.sender.toText
      recipient := trx.recipient.map fun a => .text a.toText
      input := .text (Hex.toText trx.input)
      targetType := trx.targetType.map fun t => .text t.tag
      targetCall := trx.targetCall.map .text
      isErc20Call := .ofBool trx.isErc20Call }

/-- Whether it looks like the call of a contract that has not been classified. -/
def isPending (row : TransactionRow) : Bool :=
  row.recipient.isSome && 10 ≤ row.input.length && row.targetCall.isNone

/-- The order of hashes: none, then by what they are. -/
def hashLe : Option TextCell → Option TextCell → Bool
  | none, _ => true
  | some _, none => false
  | some a, some b => a.le b

/-- The order of listings: by block, then by hash. -/
def le (a b : TransactionRow) : Bool :=
  if a.blockNumber.isLevelWith b.blockNumber then hashLe a.hash b.hash
  else a.blockNumber.le b.blockNumber

/-- Whether the row is of the transaction of a hash. -/
def isOf (row : TransactionRow) (hash : Hash) : Bool :=
  row.hash == some (.text hash.toText)

/-- The columns of a row with the types that they should have. -/
structure Typed where
  hash : String
  blockNumber : Option UInt64
  sender : String
  recipient : Option String
  input : String
  targetType : Option String
  targetCall : Option String
  isErc20Call : Bool
deriving DecidableEq, Repr

/-- Takes out the columns. -/
def columns (row : TransactionRow) : Except StoreError Typed := do
  let hash ← present (row.hash.bind TextCell.text?)
  let block ← row.blockNumber.toOption
  let sender ← someText row.sender
  let recipient ← row.recipient.mapM someText
  let input ← someText row.input
  let type ← row.targetType.mapM someText
  let call ← row.targetCall.mapM someText
  let erc20 ← row.isErc20Call.toBool
  .ok ⟨hash, block, sender, recipient, input, type, call, erc20⟩

/-- The transaction of the columns. -/
def Typed.decode (columns : Typed) : Except StoreError Transaction := do
  let hash ←
    match FixedBytes.ofText? columns.hash with
    | some h => .ok h
    | none => .error (.malformedHash columns.hash)
  let sender ← decodeAddress columns.sender
  let recipient ← columns.recipient.mapM decodeAddress
  let input ←
    match Hex.ofText? columns.input with
    | some bs => .ok bs
    | none => .error (.malformedInput columns.hash)
  .ok
    { hash := hash
      blockNumber := columns.blockNumber
      sender := sender
      recipient := recipient
      input := input
      targetType := columns.targetType.map AccountType.ofTag
      targetCall := columns.targetCall
      isErc20Call := columns.isErc20Call }

/-- The transactions of some rows: the columns of all are taken out before any is decoded. -/
def decodeAll (rows : List TransactionRow) : Except StoreError (List Transaction) := do
  let columns ← rows.mapM TransactionRow.columns
  columns.mapM Typed.decode

end TransactionRow

/-! ### Accounts and contracts -/

/-- A row of the table of accounts. -/
structure AccountRow where
  address : Option TextCell
  accountType : TextCell
deriving DecidableEq, Repr

/-- A row of the table of contracts. -/
structure ContractRow where
  address : Option TextCell
  contractType : TextCell
  abi : Option TextCell
deriving DecidableEq, Repr

/-! ### Withdrawal requests -/

/-- A row of the table of withdrawal requests. -/
structure RequestRow where
  /-- Its number in the order of arrival. -/
  seq : Nat
  requestId : TextCell
  address : TextCell
  stakerId : TextCell
  amount : TextCell
  createdTime : Cell
  withdrawTime : Cell
deriving DecidableEq, Repr

namespace RequestRow

/-- The row of a request under a number, if its times can be stored. -/
def of? (seq : Nat) (r : WithdrawRequest) : Option RequestRow := do
  let created ← Cell.ofUInt64? r.createdTime
  let withdrawn ← Cell.ofOption? r.withdrawTime
  some
    { seq := seq
      requestId := .text (UInt256.toText r.requestId)
      address := .text r.address.toText
      stakerId := .text (UInt256.toText r.stakerId)
      amount := .text (UInt256.toText r.amount)
      createdTime := created
      withdrawTime := withdrawn }

/-- Whether two rows are of one request: no two such rows are stored. -/
def sameKey (a b : RequestRow) : Bool :=
  a.address == b.address && a.stakerId == b.stakerId && a.requestId == b.requestId

/-- Whether a listing shows the row. -/
def matchesFilter (filter : RequestFilter) (row : RequestRow) : Bool :=
  row.address == .text filter.address.toText
    && (match filter.stakerId with
      | none => true
      | some id => row.stakerId == .text (UInt256.toText id))

/-- The columns of a row, except for its number, with the types that they should have. -/
structure Typed where
  requestId : String
  address : String
  stakerId : String
  amount : String
  createdTime : UInt64
  withdrawTime : Option UInt64
deriving DecidableEq, Repr

/-- Takes out the columns. -/
def columns (row : RequestRow) : Except StoreError Typed := do
  let requestId ← someText row.requestId
  let address ← someText row.address
  let stakerId ← someText row.stakerId
  let amount ← someText row.amount
  let created ← row.createdTime.toUInt64
  let withdrawn ← row.withdrawTime.toOption
  .ok ⟨requestId, address, stakerId, amount, created, withdrawn⟩

/-- The request of the columns. -/
def Typed.decode (columns : Typed) : Except StoreError WithdrawRequest := do
  let requestId ← decodeNumber columns.requestId
  let address ← decodeAddress columns.address
  let stakerId ← decodeNumber columns.stakerId
  let amount ← decodeNumber columns.amount
  .ok ⟨requestId, address, stakerId, amount, columns.createdTime, columns.withdrawTime⟩

/-- The requests of some rows: the columns of all are taken out before any is decoded. -/
def decodeAll (rows : List RequestRow) : Except StoreError (List WithdrawRequest) := do
  let columns ← rows.mapM RequestRow.columns
  columns.mapM Typed.decode

end RequestRow

end OffChain.Store
