import OffChain.Store.Basic

/-!
# Accounts and contracts in the store

Both are kept by address; a record takes the place of an earlier one.  The empty text of an
interface description counts as none.
-/

namespace OffChain.Store

/-! ### Accounts -/

/-- The table with a row in the place of that of the same address. -/
def putAccount (rows : List AccountRow) (row : AccountRow) : List AccountRow :=
  (rows.filter fun r => r.address.isNone || r.address != row.address) ++ [row]

/-- Keeps an account. -/
def keepAccount (s : Store) (account : Account) : Except StoreError Store := do
  let rows ← s.writable s.accounts
  let row : AccountRow := ⟨some (.text account.address.toText), .text account.accountType.tag⟩
  .ok { s with accounts := some (putAccount rows row) }

/-- The account of an address. -/
def accountAt (s : Store) (address : Address) : Except StoreError (Option Account) := do
  let rows ← present s.accounts
  match rows.find? fun row => row.address == some (.text address.toText) with
  | none => .ok none
  | some row => do
    let tag ← someText row.accountType
    .ok (some ⟨address, AccountType.ofTag tag⟩)

/-! ### Contracts -/

/-- The table with a row in the place of that of the same address. -/
def putContract (rows : List ContractRow) (row : ContractRow) : List ContractRow :=
  (rows.filter fun r => r.address.isNone || r.address != row.address) ++ [row]

/-- Keeps a contract. -/
def keepContract (s : Store) (contract : Contract) : Except StoreError Store := do
  let rows ← s.writable s.contracts
  let row : ContractRow :=
    ⟨some (.text contract.address.toText), .text contract.contractType, contract.abi.map .text⟩
  .ok { s with contracts := some (putContract rows row) }

/-- The contract of an address. -/
def contractAt (s : Store) (address : Address) : Except StoreError (Option Contract) := do
  let rows ← present s.contracts
  match rows.find? fun row => row.address == some (.text address.toText) with
  | none => .ok none
  | some row => do
    let contractType ← someText row.contractType
    let abi ← row.abi.mapM someText
    .ok (some ⟨address, contractType, abi.filter fun abi => !abi.isEmpty⟩)

end OffChain.Store
