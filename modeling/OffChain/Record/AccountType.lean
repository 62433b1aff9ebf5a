import OffChain.Json.Fields

/-!
# Types of accounts

The type of an account has two texts: its name, which stands in documents, and its tag, which
stands in stored rows and in reports.  Reading a tag ignores the case of ASCII letters and takes
every unknown tag as that of a generic contract; reading a name is exact.
-/

namespace OffChain

/-- What kind of account an address belongs to. -/
inductive AccountType where
  /-- An externally owned account. -/
  | wallet
  /-- A contract of no particular kind. -/
  | contract
  /-- The contract that governs staking. -/
  | sfc
  /-- A fungible token. -/
  | erc20Token
  /-- A non-fungible token. -/
  | erc721Contract
  /-- A multi-token contract. -/
  | erc1155Contract
deriving DecidableEq, Repr

namespace AccountType

/-- All of them. -/
def all : List AccountType :=
  [wallet, contract, sfc, erc20Token, erc721Contract, erc1155Contract]

/-- The name that stands in documents. -/
def name : AccountType → String
  | wallet => "Wallet"
  | contract => "Contract"
  | sfc => "Sfc"
  | erc20Token => "Erc20Token"
  | erc721Contract => "Erc721Contract"
  | erc1155Contract => "Erc1155Contract"

/-- The tag that stands in stored rows. -/
def tag : AccountType → String
  | wallet => "wallet"
  | contract => "contract"
  | sfc => "sfc"
  | erc20Token => "ERC20"
  | erc721Contract => "ERC721"
  | erc1155Contract => "ERC1155"

/-- A text with its ASCII capitals in lower case. -/
def lower (s : String) : String :=
  String.ofList (s.toList.map Char.toLower)

/-- The type that a stored tag means; an unknown tag means a generic contract. -/
def ofTag (s : String) : AccountType :=
  (all.find? fun t => lower t.tag == lower s).getD contract

/-- The type of a name. -/
def ofName? (s : String) : Option AccountType :=
  all.find? fun t => t.name == s

/-- The document of a type: its name. -/
def toJson (t : AccountType) : Json :=
  .ofString t.name

/-- Reads a name, also as the only member of an object whose value is `null`. -/
def ofJson? : Json → Option AccountType
  | .text (some s) => ofName? s
  | .object [(some s, .null)] => ofName? s
  | _ => none

@[simp]
theorem ofTag_tag (t : AccountType) : ofTag t.tag = t := by
  cases t <;> decide +kernel

@[simp]
theorem ofName?_name (t : AccountType) : ofName? t.name = some t := by
  cases t <;> decide +kernel

end AccountType

end OffChain
