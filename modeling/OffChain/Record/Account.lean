import OffChain.Address
import OffChain.Record.AccountType
import OffChain.Record.Encoding

/-!
# Accounts and contracts

The records that the store keeps of the addresses it knows.
-/

namespace OffChain

/-- What is known of an account. -/
structure Account where
  /-- Its address. -/
  address : Address
  /-- Its type. -/
  accountType : AccountType
deriving DecidableEq

namespace Account

/-- The names of its fields in documents. -/
def fieldNames : List String :=
  ["address", "account_type"]

/-- The document of an account. -/
def toJson (a : Account) : Json :=
  .record [("address", a.address.toJson), ("account_type", a.accountType.toJson)]

/-- Reads an account. -/
def ofJson? (j : Json) : Option Account :=
  match j.fields? fieldNames with
  | some [address, type] => do
    let address ← Json.required FixedBytes.ofJson? address
    let type ← Json.required AccountType.ofJson? type
    some ⟨address, type⟩
  | _ => none

end Account

/-- What is known of a contract. -/
structure Contract where
  /-- Its address. -/
  address : Address
  /-- What it is, in free form, such as `ERC20`. -/
  contractType : String
  /-- The JSON text of its interface, if that is known. -/
  abi : Option String
deriving DecidableEq

namespace Contract

/-- The names of its fields in documents. -/
def fieldNames : List String :=
  ["address", "contract_type", "abi"]

/-- The document of a contract. -/
def toJson (c : Contract) : Json :=
  .record
    [("address", c.address.toJson), ("contract_type", .ofString c.contractType),
      ("abi", .orNull Json.ofString c.abi)]

/-- Reads a contract. -/
def ofJson? (j : Json) : Option Contract :=
  match j.fields? fieldNames with
  | some [address, type, abi] => do
    let address ← Json.required FixedBytes.ofJson? address
    let type ← Json.required Json.toString? type
    let abi ← Json.optional Json.toString? abi
    some ⟨address, type, abi⟩
  | _ => none

end Contract

end OffChain
