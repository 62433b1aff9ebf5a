import OffChain.Address
import OffChain.Text.Decimal

/-!
# Failures of the store

A failure is described by a chain of messages, the outermost one first.  What the database itself
objects to has no message here: the chain ends before it, and is empty if nothing was added to it.
-/

namespace OffChain

/-- The calls of the store that can be out of order while the others work. -/
inductive StoreCall where
  | account
  | contract
  | update
  | withdrawals
deriving DecidableEq, Repr

namespace StoreCall

/-- Its name. -/
def name : StoreCall → String
  | account => "account"
  | contract => "contract"
  | update => "update"
  | withdrawals => "withdrawals"

end StoreCall

/-- The row counts that the store reports. -/
inductive Tally where
  | transactions
  | classified
  | accounts
  | contracts
  | withdrawRequests
deriving DecidableEq, Repr

namespace Tally

/-- The query that counts. -/
def query : Tally → String
  | transactions => "SELECT COUNT(*) FROM transactions"
  | classified => "SELECT COUNT(*) FROM transactions WHERE target_function_call IS NOT NULL"
  | accounts => "SELECT COUNT(*) FROM accounts"
  | contracts => "SELECT COUNT(*) FROM contracts"
  | withdrawRequests => "SELECT COUNT(*) FROM withdraw_requests"

end Tally

/-- What was being loaded when something failed. -/
inductive Load where
  | contract (address : Address)
  | account (address : Address)
  | withdrawRequests (address : Address)
deriving DecidableEq

namespace Load

/-- What failed. -/
def message : Load → String
  | contract a => "failed to load contract " ++ a.checksum
  | account a => "failed to load account " ++ a.checksum
  | withdrawRequests a => "failed to load withdraw requests of " ++ a.checksum

end Load

/-- Why a call of the store failed. -/
inductive StoreError where
  /-- The database did not carry out a statement or did not hand out a column. -/
  | database
  /-- The database does not take changes. -/
  | readOnly
  /-- A stored transaction hash is not one. -/
  | malformedHash (text : String)
  /-- The stored input of the transaction of this hash is not a byte string. -/
  | malformedInput (hash : String)
  /-- A stored address is not one. -/
  | malformedAddress (text : String)
  /-- A stored number is not one of 256 bits. -/
  | malformedNumber (text : String)
  /-- A transaction to be updated is not there. -/
  | unknownTransaction (hash : Hash)
  /-- A page of no requests was asked for. -/
  | zeroPage
  /-- A text is not a cursor. -/
  | invalidCursor (text : String)
  /-- A row count failed. -/
  | tally (what : Tally) (cause : StoreError)
  /-- The call is out of order. -/
  | outage (call : StoreCall)
  /-- Something was being loaded. -/
  | loading (what : Load) (cause : StoreError)
deriving DecidableEq

namespace StoreError

/-- The chain of messages, outermost first. -/
def messages : StoreError → List String
  | database => []
  | readOnly => []
  | malformedHash text => ["malformed transaction hash " ++ text]
  | malformedInput hash => ["malformed input data of " ++ hash]
  | malformedAddress text => ["malformed address " ++ text]
  | malformedNumber text => ["malformed numeric value " ++ text]
  | unknownTransaction hash => ["transaction " ++ hash.toText ++ " not found in store"]
  | zeroPage => ["withdrawal page size must not be zero"]
  | invalidCursor text => ["invalid cursor " ++ text]
  | tally what cause => ("count query failed: " ++ what.query) :: cause.messages
  | outage call => ["injected " ++ call.name ++ " failure"]
  | loading what cause => what.message :: cause.messages

/-- What an event says of the failure, if that is known: the outermost message. -/
def headline? : StoreError → Option String
  | readOnly => some "attempt to write a readonly database"
  | e => e.messages.head?

end StoreError

end OffChain
