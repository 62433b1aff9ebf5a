import OffChain.Event
import OffChain.Network.Node
import OffChain.Text.Blank

/-!
# Where validators' metadata come from

The chain knows, for every validator, the URL of the document that the validator publishes.  A
validator without a URL, with one that is not of the web, or whose document has no name has
published nothing; everything else that can go wrong on the way is an error and not an absence.
-/

namespace OffChain

/-! ### Sources -/

/-- Why a source cannot say what a validator published. -/
inductive SourceError where
  /-- There is no node to ask. -/
  | offline
  /-- The node does not say where the metadata of a validator are. -/
  | unreadableRecord (id : UInt256)
  /-- The node does not say what its newest block is. -/
  | unreachableNode
  /-- Nothing is found under a URL. -/
  | downloadFailed (url : String)
  /-- The server of a URL refuses. -/
  | downloadRejected (url : String)
  /-- What is found under a URL is not a document of metadata. -/
  | malformedDocument (url : String)
  /-- A reason in the source's own words. -/
  | reason (text : String)
deriving DecidableEq

namespace SourceError

/-- What is wrong. -/
def message : SourceError → String
  | offline => "OPERA_RPC_URL is not set, staker info can not be pulled"
  | unreadableRecord id => "failed to read STI record of staker " ++ UInt256.toDecimal id
  | unreachableNode => "failed to test RPC connectivity with eth_blockNumber"
  | downloadFailed url => "failed to download staker config from " ++ url
  | downloadRejected url => "staker config request to " ++ url ++ " rejected"
  | malformedDocument url => "malformed staker config at " ++ url
  | reason text => text

end SourceError

/-- What a source says when it is asked, and what it does to find out. -/
structure Inquiry (α : Type) where
  /-- What it asks of the network, first thing first, whether or not that gets through. -/
  requests : List Network.Request
  /-- What it reports. -/
  events : List Event
  /-- What it says. -/
  reply : Except SourceError α

/-- A source says what a validator published, `none` meaning nothing. -/
abbrev InfoSource := UInt256 → Inquiry (Option ValidatorInfo)

namespace InfoSource

/-- The source that always says the same of a validator, without asking the network. -/
def fixed (reply : UInt256 → Except SourceError (Option ValidatorInfo)) : InfoSource :=
  fun id => ⟨[], [], reply id⟩

/-- The source without a node. -/
def offline : InfoSource :=
  fixed fun _ => .error .offline

/-! ### The chain as a source -/

/-- Whether a text begins like the URL of a document in the web. -/
def isWebUrl (url : String) : Bool :=
  url.startsWith "https://" || url.startsWith "http://"

/-- The record in the document under a URL: a reply has to come, its status has to be none of a
failure, and its content has to be the document of a record. -/
def document (net : Network) (url : String) : Except SourceError ValidatorInfo :=
  match net.get? url with
  | none => .error (.downloadFailed url)
  | some reply =>
    if reply.isFailure then .error (.downloadRejected url)
    else
      match (Json.parse? reply.body).bind ValidatorInfo.ofJson? with
      | some info => .ok info
      | none => .error (.malformedDocument url)

/-- What the chain and the web say of a validator. -/
def ofNetwork (net : Network) (contract : Address) : InfoSource := fun id =>
  let call : Network.Request := .call contract (Network.infoCallData id)
  match net.infoText? with
  | none => ⟨[call], [], .error (.unreadableRecord id)⟩
  | some text =>
    let url := Text.trim text
    if url.isEmpty then
      ⟨[call], [⟨.source, .debug, "staker has no published info", []⟩], .ok none⟩
    else if !isWebUrl url then
      ⟨[call], [⟨.source, .debug, "staker config url not usable", [("url", .quoted url)]⟩],
        .ok none⟩
    else ⟨[call, .document url], [], (document net url).map ValidatorInfo.orNone⟩

/-- Asks the node for its newest block, to see whether it can be reached. -/
def probe (net : Network) : Inquiry UInt64 :=
  match net.newestBlock? with
  | some block =>
    ⟨[.blockNumber],
      [⟨.source, .info, "RPC connection successful",
        [("latest_block", .shown (Decimal.text block.toNat))]⟩],
      .ok block⟩
  | none => ⟨[.blockNumber], [], .error .unreachableNode⟩

end InfoSource

end OffChain
