import OffChain.Address
import OffChain.Record.AccountType
import OffChain.Record.Encoding

/-!
# Transactions

A transaction carries what the chain recorded and, once it has been classified, three derived
fields: the type of the recipient, the name of the called function and whether the call is one of a
fungible token.
-/

namespace OffChain

/-- A transaction with the details of its classification. -/
structure Transaction where
  /-- The hash that names it. -/
  hash : Hash
  /-- The block it is in; absent while it is pending. -/
  blockNumber : Option UInt64
  /-- Who sent it. -/
  sender : Address
  /-- Who it is sent to; absent when it creates a contract. -/
  recipient : Option Address
  /-- The call data; its first four bytes are the function selector. -/
  input : Bytes
  /-- The type of the recipient, once known. -/
  targetType : Option AccountType
  /-- The name of the called function, or the digits of its selector, once known. -/
  targetCall : Option String
  /-- Whether a function of a fungible token was recognised. -/
  isErc20Call : Bool
deriving DecidableEq

namespace Transaction

/-- Whether it can be the call of a contract: it has a recipient, and its input is long enough to
carry a selector. -/
def canBeCall (trx : Transaction) : Bool :=
  trx.recipient.isSome && 4 ≤ trx.input.length

/-- The names of its fields in documents. -/
def fieldNames : List String :=
  ["hash", "block_number", "from", "to", "input", "target_contract_type", "target_function_call",
    "is_erc20_call"]

/-- The document of a transaction. -/
def toJson (trx : Transaction) : Json :=
  .record
    [("hash", trx.hash.toJson),
      ("block_number", .orNull Json.ofUInt64 trx.blockNumber),
      ("from", trx.sender.toJson),
      ("to", .orNull FixedBytes.toJson trx.recipient),
      ("input", trx.input.toJson),
      ("target_contract_type", .orNull AccountType.toJson trx.targetType),
      ("target_function_call", .orNull Json.ofString trx.targetCall),
      ("is_erc20_call", .bool trx.isErc20Call)]

/-- Reads a transaction. -/
def ofJson? (j : Json) : Option Transaction :=
  match j.fields? fieldNames with
  | some [hash, block, sender, recipient, input, type, call, erc20] => do
    let hash ← Json.required FixedBytes.ofJson? hash
    let block ← Json.optional Json.toUInt64? block
    let sender ← Json.required FixedBytes.ofJson? sender
    let recipient ← Json.optional FixedBytes.ofJson? recipient
    let input ← Json.required Bytes.ofJson? input
    let type ← Json.optional AccountType.ofJson? type
    let call ← Json.optional Json.toString? call
    let erc20 ← Json.required Json.toBool? erc20
    some ⟨hash, block, sender, recipient, input, type, call, erc20⟩
  | _ => none

end Transaction

end OffChain
