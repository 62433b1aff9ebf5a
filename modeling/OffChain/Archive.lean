import OffChain.Cache
import OffChain.Config
import OffChain.InfoSource
import OffChain.Store.Registry
import OffChain.Store.Transactions
import OffChain.Store.Withdrawals

/-!
# The archive

The archive answers from the store, the cache and the source of validators' metadata.  Metadata are
read from the cache first and then from the source, and what the source says is kept in the
cache, also that a validator published nothing; an error of the source is never kept.  A cache that
cannot keep a record does not stand in the way of an answer.

Calls of the store can be put out of order, so that they fail while the store itself is sound.
-/

namespace OffChain

/-- The store, the cache and the source, and the configuration that ties them together. -/
structure Archive where
  /-- The configuration. -/
  config : Config
  /-- The store. -/
  store : Store
  /-- The calls of the store that are out of order. -/
  outages : List StoreCall
  /-- The cache. -/
  cache : Cache
  /-- The source. -/
  source : InfoSource
  /-- The validators that the source was asked for, first one first. -/
  asked : List UInt256

namespace Archive

/-- An archive over a store whose cache is empty. -/
def ofStore (config : Config) (store : Store) (source : InfoSource) : Archive :=
  { config := config
    store := store
    outages := []
    cache := Cache.empty config.cacheLifetime config.cacheBudget
    source := source
    asked := [] }

/-- Whether an address is that of the staking contract. -/
def isStakingContract (archive : Archive) (address : Address) : Bool :=
  address == archive.config.stakingContract

/-- Whether an address is that of the contract that knows of metadata. -/
def isInfoContract (archive : Archive) (address : Address) : Bool :=
  address == archive.config.infoContract

/-! ### The store -/

/-- The result of a call of the store, unless the call is out of order. -/
def guarded {α : Type} (archive : Archive) (call : StoreCall) (result : Except StoreError α) :
    Except StoreError α :=
  if archive.outages.contains call then .error (.outage call) else result

/-- The contract of an address. -/
def contractAt (archive : Archive) (address : Address) : Except StoreError (Option Contract) :=
  (archive.guarded .contract (archive.store.contractAt address)).mapError
    (.loading (.contract address))

/-- The account of an address. -/
def accountAt (archive : Archive) (address : Address) : Except StoreError (Option Account) :=
  (archive.guarded .account (archive.store.accountAt address)).mapError
    (.loading (.account address))

/-- The archive after the classification of a transaction was written. -/
def writeClassification (archive : Archive) (trx : Transaction) : Except StoreError Archive :=
  (archive.guarded .update (archive.store.writeClassification trx)).map fun store =>
    { archive with store := store }

/-- What is reported about a listing. -/
def listingEvent (filter : RequestFilter) : Logged Unit :=
  match filter.stakerId with
  | some id =>
    Logged.report .archive .debug "loading withdraw requests"
      [("address", .shown filter.address.checksum), ("staker_id", .shown (UInt256.toDecimal id))]
  | none =>
    Logged.report .archive .debug "loading withdraw requests to any validator"
      [("address", .shown filter.address.checksum)]

/-- One page of the requests that a filter lets through. -/
def listRequests (archive : Archive) (filter : RequestFilter) (cursor : Option String)
    (count : Int32) : Logged (Except StoreError RequestPage) := do
  listingEvent filter
  pure ((archive.guarded .withdrawals (archive.store.page filter cursor count)).mapError
    (.loading (.withdrawRequests filter.address)))

/-! ### Metadata of validators -/

/-- Keeps the metadata of a validator in the cache. -/
def keepInfo (archive : Archive) (id : UInt256) (info : ValidatorInfo) :
    Logged (Archive × Except OversizedEntry Unit) :=
  match archive.cache.insert id info with
  | .ok cache => pure ({ archive with cache := cache }, .ok ())
  | .error e => do
    Logged.report .archive .error "staker info can not be kept"
      [("staker_id", .shown (UInt256.toDecimal id)), ("error", .shown e.message)]
    pure (archive, .error e)

/-- The cached metadata of a validator. -/
def cachedInfo (archive : Archive) (id : UInt256) : Logged (Archive × Option ValidatorInfo) := do
  let (cache, info) ← archive.cache.find id
  pure ({ archive with cache := cache }, info)

/-- What the source says of a validator, now. -/
def askSource (archive : Archive) (id : UInt256) :
    Logged (Archive × Except SourceError (Option ValidatorInfo)) :=
  let inquiry := archive.source id
  ⟨({ archive with asked := archive.asked ++ [id] }, inquiry.reply), inquiry.events⟩

/-- The metadata of a validator from the source, the empty record if it published nothing. -/
def fetchInfo (archive : Archive) (id : UInt256) :
    Logged (Archive × Except SourceError ValidatorInfo) := do
  let (archive, reply) ← archive.askSource id
  match reply with
  | .error e => pure (archive, .error e)
  | .ok info => do
    let info := info.getD ValidatorInfo.none
    let (archive, _) ← archive.keepInfo id info
    pure (archive, .ok info)

/-- The metadata of a validator as far as they can be had; none if it published nothing. -/
def findInfo (archive : Archive) (id : UInt256) :
    Logged (Archive × Option ValidatorInfo) := do
  let (archive, cached) ← archive.cachedInfo id
  match cached with
  | some info => do
    Logged.report .archive .trace "staker info cache hit"
      [("staker_id", .shown (UInt256.toDecimal id))]
    pure (archive, info.orNone)
  | none => do
    let (archive, reply) ← archive.fetchInfo id
    match reply with
    | .ok info => pure (archive, info.orNone)
    | .error e => do
      Logged.report .archive .warn "staker info not available"
        [("staker_id", .shown (UInt256.toDecimal id)), ("error", .shown e.message)]
      pure (archive, none)

/-- What was asked of the network so far. -/
def requests (archive : Archive) : List Network.Request :=
  archive.asked.flatMap fun id => (archive.source id).requests

end Archive

end OffChain
