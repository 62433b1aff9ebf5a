import OffChain.Abi.Interface
import OffChain.Address
import OffChain.Json.Parser
import OffChain.Network.Url
import OffChain.Record.Encoding
import OffChain.Record.ValidatorInfo
import OffChain.Text.Utf8

/-!
# The node and the web

What the program can see of the network: the replies of a node of the chain, and the documents that
are found under their URLs.  A link that is down lets no request through.

The node answers the call `getInfo(uint256)` by the encoding of one text: a word that says where the
text begins, and there a word with its length and its bytes.
-/

namespace OffChain

/-- A document as a server hands it out. -/
structure WebDocument where
  /-- The status of the reply. -/
  status : Nat
  /-- Its content. -/
  body : String
deriving DecidableEq, Repr

namespace WebDocument

/-- What a server hands out under a URL that it does not know. -/
def missing : WebDocument :=
  ⟨404, ""⟩

/-- Whether the status says that the request failed, by the fault of either side. -/
def isFailure (d : WebDocument) : Bool :=
  400 ≤ d.status && d.status < 600

end WebDocument

/-- The network as the program can see it. -/
structure Network where
  /-- Whether requests get through. -/
  isUp : Bool
  /-- What the node replies when asked for its newest block; `none` if it refuses. -/
  blockReply : Option Json
  /-- What the node replies to a call; `none` if it refuses. -/
  callReply : Option Json
  /-- The documents by their URLs. -/
  documents : List (String × WebDocument)
  /-- The schemes of the URLs whose servers can be reached. -/
  schemes : List String := ["http"]

namespace Network

/-- What is asked of the network. -/
inductive Request where
  /-- The number of the newest block. -/
  | blockNumber
  /-- A call of a contract, with its data. -/
  | call (contract : Address) (data : Bytes)
  /-- The document under a URL. -/
  | document (url : String)
deriving DecidableEq

/-! ### Texts in call data -/

/-- The selector of `getInfo(uint256)` and its argument. -/
def infoCallData (id : UInt256) : Bytes :=
  (Abi.selectorOf "getInfo(uint256)").bytes ++ UInt256.toBytes id

/-- The bytes of the text that call data encode. -/
def textBytes? (data : Bytes) : Option Bytes :=
  let offset := Bytes.toNat (data.take 32)
  let tail := data.drop offset
  let length := Bytes.toNat (tail.take 32)
  if data.length < 32 || data.length < offset + 32 || tail.length < length + 32 then none
  else some ((tail.drop 32).take length)

/-! ### Replies -/

/-- The number of the newest block, if the node says. -/
def newestBlock? (net : Network) : Option UInt64 :=
  if net.isUp then
    (net.blockReply.bind UInt256.ofJson?).bind fun n =>
      if n.toNat < UInt64.size then some (UInt64.ofNat n.toNat) else none
  else none

/-- The text that the node knows of a validator, if it says. -/
def infoText? (net : Network) : Option String :=
  if net.isUp then ((net.callReply.bind Bytes.ofJson?).bind textBytes?).map Text.ofUtf8 else none

/-- Whether the server of a URL can be reached. -/
def reaches (net : Network) (url : String) : Bool :=
  net.isUp && (scheme? url).any fun scheme => net.schemes.contains scheme

/-- What the server of a URL hands out, if it can be reached. -/
def get? (net : Network) (url : String) : Option WebDocument :=
  if net.reaches url then
    some (((net.documents.find? fun d => d.1 == url).map Prod.snd).getD .missing)
  else none

end Network

end OffChain
