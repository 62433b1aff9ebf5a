import OffChain.Json.Fields
import OffChain.Store.Basic

/-!
# Stores as documents

The tables of a store can be written as a document and read back.  A table is the array of its rows
and a row the array of its columns; a table that is missing is `null`.
-/

namespace OffChain.Store

/-! ### Columns -/

/-- An integer as a document. -/
def ofInteger (i : Int) : Json :=
  .number ⟨decide (i < 0), Decimal.digits i.natAbs, none, none⟩

/-- Reads an integer. -/
def toInteger? : Json → Option Int
  | .number ⟨negative, digits, none, none⟩ =>
    some (if negative then -(Decimal.value digits : Int) else Decimal.value digits)
  | _ => none

/-- Bytes as a document. -/
def ofBlob (bs : Bytes) : Json :=
  .array [.ofString (Hex.toText bs)]

/-- Reads bytes. -/
def toBlob? : Json → Option Bytes
  | .array [.text s] => s.bind Hex.ofText?
  | _ => none

namespace Cell

/-- What stands in an integer column as a document. -/
def toJson : Cell → Json
  | null => .null
  | integer i => ofInteger i
  | real x => .array [ofInteger x.mantissa, ofInteger x.exponent]
  | text s => .ofString s
  | blob bs => ofBlob bs

/-- Reads what stands in an integer column. -/
def ofJson? : Json → Option Cell
  | .null => some null
  | .text s => s.map text
  | .array [mantissa, exponent] => do
    some (real ⟨← toInteger? mantissa, ← toInteger? exponent⟩)
  | .array items => (toBlob? (.array items)).map blob
  | j => (toInteger? j).map integer

end Cell

namespace TextCell

/-- What stands in a text column as a document. -/
def toJson : TextCell → Json
  | text s => .ofString s
  | blob bs => ofBlob bs

/-- Reads what stands in a text column. -/
def ofJson? : Json → Option TextCell
  | .text s => s.map text
  | j => (toBlob? j).map blob

end TextCell

/-- A text column that may be empty. -/
def ofText : Option TextCell → Json :=
  .orNull TextCell.toJson

/-- Reads a text column that may be empty. -/
def toText? : Json → Option (Option TextCell)
  | .null => some none
  | j => (TextCell.ofJson? j).map some

/-! ### Rows -/

/-- A transaction as a document. -/
def TransactionRow.toJson (r : TransactionRow) : Json :=
  .array
    [ofText r.hash, r.blockNumber.toJson, r.sender.toJson, ofText r.recipient, r.input.toJson,
      ofText r.targetType, ofText r.targetCall, r.isErc20Call.toJson]

/-- Reads a transaction. -/
def TransactionRow.ofJson? : Json → Option TransactionRow
  | .array [hash, block, sender, recipient, input, type, call, erc20] => do
    some ⟨← toText? hash, ← Cell.ofJson? block, ← TextCell.ofJson? sender, ← toText? recipient,
      ← TextCell.ofJson? input, ← toText? type, ← toText? call, ← Cell.ofJson? erc20⟩
  | _ => none

/-- An account as a document. -/
def AccountRow.toJson (r : AccountRow) : Json :=
  .array [ofText r.address, r.accountType.toJson]

/-- Reads an account. -/
def AccountRow.ofJson? : Json → Option AccountRow
  | .array [address, type] => do some ⟨← toText? address, ← TextCell.ofJson? type⟩
  | _ => none

/-- A contract as a document. -/
def ContractRow.toJson (r : ContractRow) : Json :=
  .array [ofText r.address, r.contractType.toJson, ofText r.abi]

/-- Reads a contract. -/
def ContractRow.ofJson? : Json → Option ContractRow
  | .array [address, type, abi] => do
    some ⟨← toText? address, ← TextCell.ofJson? type, ← toText? abi⟩
  | _ => none

/-- A withdrawal request as a document. -/
def RequestRow.toJson (r : RequestRow) : Json :=
  .array
    [.ofNat r.seq, r.requestId.toJson, r.address.toJson, r.stakerId.toJson, r.amount.toJson,
      r.createdTime.toJson, r.withdrawTime.toJson]

/-- Reads a withdrawal request. -/
def RequestRow.ofJson? : Json → Option RequestRow
  | .array [seq, requestId, address, stakerId, amount, created, withdrawn] => do
    some ⟨← seq.toNat?, ← TextCell.ofJson? requestId, ← TextCell.ofJson? address,
      ← TextCell.ofJson? stakerId, ← TextCell.ofJson? amount, ← Cell.ofJson? created,
      ← Cell.ofJson? withdrawn⟩
  | _ => none

/-! ### Stores -/

/-- The names of the tables in documents. -/
def tableNames : List String :=
  ["transactions", "accounts", "contracts", "withdraw_requests", "withdraw_sequence"]

/-- The rows of a table as a document. -/
def ofRows {α : Type} (row : α → Json) : Option (List α) → Json :=
  .orNull fun rows => .array (rows.map row)

/-- Reads the rows of a table. -/
def toRows? {α : Type} (row : Json → Option α) : Option Json → Option (Option (List α)) :=
  Json.optional fun j => j.toItems?.bind (List.mapM row)

/-- The document of a store. -/
def toJson (s : Store) : Json :=
  .record
    [("transactions", ofRows TransactionRow.toJson s.transactions),
      ("accounts", ofRows AccountRow.toJson s.accounts),
      ("contracts", ofRows ContractRow.toJson s.contracts),
      ("withdraw_requests", ofRows RequestRow.toJson (s.ledger.map Ledger.rows)),
      ("withdraw_sequence", .orNull Json.ofNat (s.ledger.map Ledger.lastSeq))]

/-- Reads a store. -/
def ofJson? (j : Json) : Option Store :=
  match j.fields? tableNames with
  | some [transactions, accounts, contracts, requests, sequence] => do
    let transactions ← toRows? TransactionRow.ofJson? transactions
    let accounts ← toRows? AccountRow.ofJson? accounts
    let contracts ← toRows? ContractRow.ofJson? contracts
    let requests ← toRows? RequestRow.ofJson? requests
    let sequence ← Json.optional Json.toNat? sequence
    let ledger := requests.bind fun rows => sequence.map fun last => (⟨rows, last⟩ : Ledger)
    some ⟨transactions, accounts, contracts, ledger, false⟩
  | _ => none

end OffChain.Store
