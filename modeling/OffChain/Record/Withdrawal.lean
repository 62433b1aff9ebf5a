import OffChain.Address
import OffChain.Record.Encoding

/-!
# Withdrawal requests and their listings

A delegator withdraws stake from a validator by a request; a listing shows one page of the requests
of a delegator, newest first.
-/

namespace OffChain

/-- A request to withdraw part of a delegation. -/
structure WithdrawRequest where
  /-- The identifier that the staking contract gave it. -/
  requestId : UInt256
  /-- The delegator. -/
  address : Address
  /-- The validator that the stake is withdrawn from. -/
  stakerId : UInt256
  /-- The amount in Wei. -/
  amount : UInt256
  /-- When it was made, in seconds since the beginning of 1970. -/
  createdTime : UInt64
  /-- When it was finished, if it was. -/
  withdrawTime : Option UInt64
deriving DecidableEq

namespace WithdrawRequest

/-- The names of its fields in documents. -/
def fieldNames : List String :=
  ["request_id", "address", "staker_id", "amount", "created_time", "withdraw_time"]

/-- The document of a request. -/
def toJson (r : WithdrawRequest) : Json :=
  .record
    [("request_id", UInt256.toJson r.requestId), ("address", r.address.toJson),
      ("staker_id", UInt256.toJson r.stakerId), ("amount", UInt256.toJson r.amount),
      ("created_time", .ofUInt64 r.createdTime),
      ("withdraw_time", .orNull Json.ofUInt64 r.withdrawTime)]

/-- Reads a request. -/
def ofJson? (j : Json) : Option WithdrawRequest :=
  match j.fields? fieldNames with
  | some [requestId, address, stakerId, amount, createdTime, withdrawTime] => do
    let requestId ← Json.required UInt256.ofJson? requestId
    let address ← Json.required FixedBytes.ofJson? address
    let stakerId ← Json.required UInt256.ofJson? stakerId
    let amount ← Json.required UInt256.ofJson? amount
    let createdTime ← Json.required Json.toUInt64? createdTime
    let withdrawTime ← Json.optional Json.toUInt64? withdrawTime
    some ⟨requestId, address, stakerId, amount, createdTime, withdrawTime⟩
  | _ => none

end WithdrawRequest

/-- Which requests a listing shows. -/
structure RequestFilter where
  /-- Those of this delegator. -/
  address : Address
  /-- If set, only those that withdraw from this validator. -/
  stakerId : Option UInt256
deriving DecidableEq

/-- One page of a listing. -/
structure RequestPage where
  /-- The requests on the page, newest first. -/
  items : List WithdrawRequest
  /-- How many requests the listing shows on all its pages. -/
  total : UInt64
  /-- The cursor of the first item. -/
  first : Option String
  /-- The cursor of the last item. -/
  last : Option String
  /-- No newer request precedes the page. -/
  isStart : Bool
  /-- No older request follows the page. -/
  isEnd : Bool
deriving DecidableEq

namespace RequestPage

/-- The names of its fields in documents. -/
def fieldNames : List String :=
  ["items", "total", "first", "last", "is_start", "is_end"]

/-- The document of a page. -/
def toJson (p : RequestPage) : Json :=
  .record
    [("items", .array (p.items.map WithdrawRequest.toJson)), ("total", .ofUInt64 p.total),
      ("first", .orNull Json.ofString p.first), ("last", .orNull Json.ofString p.last),
      ("is_start", .bool p.isStart), ("is_end", .bool p.isEnd)]

/-- Reads a page. -/
def ofJson? (j : Json) : Option RequestPage :=
  match j.fields? fieldNames with
  | some [items, total, first, last, isStart, isEnd] => do
    let items ← Json.required Json.toItems? items
    let items ← items.mapM WithdrawRequest.ofJson?
    let total ← Json.required Json.toUInt64? total
    let first ← Json.optional Json.toString? first
    let last ← Json.optional Json.toString? last
    let isStart ← Json.required Json.toBool? isStart
    let isEnd ← Json.required Json.toBool? isEnd
    some ⟨items, total, first, last, isStart, isEnd⟩
  | _ => none

end RequestPage

end OffChain
