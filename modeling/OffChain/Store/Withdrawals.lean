import OffChain.Store.Basic
import OffChain.Store.Cursor

/-!
# Withdrawal requests in the store

Every request that is offered takes the next number, whether it is stored or passed over because a
request of the same delegator, validator and identifier is there.  Numbers therefore have gaps, but
later rows always have greater ones.

A page lists the requests next to a cursor: a positive count asks for those older than the cursor,
a negative count for those newer than it, each time the ones nearest to it.  Without a cursor, the
page begins at the newest or at the oldest request.  A page always lists the newest one first.
-/

namespace OffChain.Store

/-! ### Inserting -/

namespace Ledger

/-- The ledger after a request was offered, and how many rows that adds: none if there is one of
the same key. -/
def offer (ledger : Ledger) (request : WithdrawRequest) : Except StoreError (Ledger × Nat) :=
  if maxInteger ≤ ledger.lastSeq then .error .database
  else
    match RequestRow.of? (ledger.lastSeq + 1) request with
    | none => .error .database
    | some row =>
      if ledger.rows.any row.sameKey then .ok (⟨ledger.rows, ledger.lastSeq + 1⟩, 0)
      else .ok (⟨ledger.rows ++ [row], ledger.lastSeq + 1⟩, 1)

/-- The ledger after some requests were offered, and how many rows they add. -/
def offerAll : Ledger → List WithdrawRequest → Except StoreError (Ledger × Nat)
  | ledger, [] => .ok (ledger, 0)
  | ledger, request :: rest => do
    let (ledger, n) ← ledger.offer request
    let (ledger, m) ← offerAll ledger rest
    .ok (ledger, n + m)

end Ledger

/-- Inserts a batch of requests; gives the number of those that were new. -/
def addRequests (s : Store) (batch : List WithdrawRequest) :
    Except StoreError (Store × Nat) := do
  let ledger ← s.insertable s.ledger (batch.map (RequestRow.of? 0))
  let (ledger, n) ← ledger.offerAll batch
  .ok ({ s with ledger := some ledger }, n)

/-! ### Pages -/

/-- The rows of a page, newest first, out of the rows of the listing, oldest first. -/
def selectPage (rows : List RequestRow) (cursor : Option Int) (count : Int32) :
    List RequestRow :=
  let size := count.toInt.natAbs
  if 0 < count.toInt then
    ((rows.filter fun row => cursor.all fun c => decide ((row.seq : Int) < c)).reverse).take size
  else
    ((rows.filter fun row => cursor.all fun c => decide (c < (row.seq : Int))).take size).reverse

/-- The page without requests: nothing lies beyond it in the direction of paging, and without a
cursor nothing lies on its other side either. -/
def emptyPage (total : Nat) (forward withCursor : Bool) : RequestPage :=
  { items := []
    total := UInt64.ofNat total
    first := none
    last := none
    isStart := !forward || !withCursor
    isEnd := forward || !withCursor }

/-- The page of some of the rows of a listing that holds the others too. -/
def pageOf (rows selected : List RequestRow) (items : List WithdrawRequest)
    (forward withCursor : Bool) : RequestPage :=
  match selected.head?, selected.getLast? with
  | some newest, some oldest =>
    { items := items
      total := UInt64.ofNat rows.length
      first := some (Cursor.text newest.seq)
      last := some (Cursor.text oldest.seq)
      isStart := !rows.any fun row => decide (newest.seq < row.seq)
      isEnd := !rows.any fun row => decide (row.seq < oldest.seq) }
  | _, _ => emptyPage rows.length forward withCursor

/-- One page of a listing, given by its rows, oldest first. -/
def readPage (rows : List RequestRow) (cursor : Option Int) (count : Int32) :
    Except StoreError RequestPage := do
  let selected := selectPage rows cursor count
  let items ← RequestRow.decodeAll selected
  .ok (pageOf rows selected items (decide (0 < count.toInt)) cursor.isSome)

/-- One page of the requests that a filter lets through. -/
def page (s : Store) (filter : RequestFilter) (cursor : Option String) (count : Int32) :
    Except StoreError RequestPage :=
  if count.toInt = 0 then .error .zeroPage
  else do
    let ledger ← present s.ledger
    let start ← cursor.mapM Cursor.read
    readPage (ledger.rows.filter (RequestRow.matchesFilter filter)) start count

end OffChain.Store
