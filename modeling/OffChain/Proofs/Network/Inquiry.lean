import OffChain.InfoSource
import OffChain.Text.Blank

/-!
# What the chain and the web say of a validator

A node can fail to say where the metadata of a validator are, a server can fail to hand them out,
and a document can fail to be metadata; all this is kept apart from a validator that published
nothing.

* `Network.Reaches`, `Network.Serves`: which servers can be reached, and what they hand out.
* `InfoSource.IsReplyFor`: what has to be said of a validator whose document is under a URL.
* `InfoSource.ofNetwork_of_no_reply`, `InfoSource.ofNetwork_of_no_url` and
  `InfoSource.isReplyFor_ofNetwork`: what is asked, and what is said, in the three cases of what
  the node replies.
-/

namespace OffChain

/-! ### Servers -/

namespace WebDocument

/-- A server refuses a request: its status is one of those from 400 to 599. -/
def IsRefusal (d : WebDocument) : Prop :=
  400 ≤ d.status ∧ d.status < 600

theorem isFailure_iff {d : WebDocument} : d.isFailure = true ↔ d.IsRefusal := by
  rw [isFailure, Bool.and_eq_true, decide_eq_true_eq, decide_eq_true_eq, IsRefusal]

end WebDocument

namespace Network

/-- The server of a URL can be reached: requests get through, and there are servers for the scheme
of the URL, which has to be one. -/
structure Reaches (net : Network) (url : String) : Prop where
  /-- Requests get through. -/
  isUp : net.isUp = true
  /-- The text is a URL of a scheme that has servers. -/
  hasScheme : ∃ scheme ∈ net.schemes, scheme? url = some scheme

/-- A server that can be reached hands out a document under a URL: the one that is there, or a
reply with the status 404 if none is. -/
inductive Serves (net : Network) (url : String) : WebDocument → Prop
  | listed {before behind : List (String × WebDocument)} {d : WebDocument}
      (h : net.Reaches url) (hdocuments : net.documents = before ++ (url, d) :: behind)
      (hbefore : ∀ e ∈ before, e.1 ≠ url) : Serves net url d
  | unlisted (h : net.Reaches url) (hdocuments : ∀ e ∈ net.documents, e.1 ≠ url) :
    Serves net url ⟨404, ""⟩

variable {net : Network} {url : String}

theorem reaches_iff : net.reaches url = true ↔ net.Reaches url := by
  have hscheme : ((scheme? url).any fun scheme => net.schemes.contains scheme) = true ↔
      ∃ scheme ∈ net.schemes, scheme? url = some scheme := by
    rw [Option.any_eq_true]
    constructor
    · rintro ⟨scheme, hurl, hmem⟩
      exact ⟨scheme, List.contains_iff_mem.mp hmem, hurl⟩
    · rintro ⟨scheme, hmem, hurl⟩
      exact ⟨scheme, hurl, List.contains_iff_mem.mpr hmem⟩
  rw [reaches, Bool.and_eq_true, hscheme]
  exact ⟨fun h => ⟨h.1, h.2⟩, fun h => ⟨h.isUp, h.hasScheme⟩⟩

theorem get?_eq_none_iff : net.get? url = none ↔ ¬net.Reaches url := by
  rw [get?, ← reaches_iff]
  cases net.reaches url with
  | true => exact iff_of_false (fun h => nomatch h) (not_not_intro rfl)
  | false => exact iff_of_true rfl Bool.false_ne_true

theorem get?_of_serves {d : WebDocument} (h : net.Serves url d) : net.get? url = some d := by
  have hfound : ∀ {found : Option (String × WebDocument)}, net.Reaches url →
      (net.documents.find? fun e => e.1 == url) = found →
        net.get? url = some ((found.map Prod.snd).getD .missing) := by
    rintro _ hreaches rfl
    rw [get?, if_pos (reaches_iff.mpr hreaches)]
  cases h with
  | @listed before behind d h hdocuments hbefore =>
    refine hfound h (List.find?_eq_some_iff_append.mpr ⟨beq_self_eq_true url, before, behind,
      hdocuments, fun e he => ?_⟩)
    rw [Bool.not_eq_true', beq_eq_false_iff_ne]
    exact hbefore e he
  | unlisted h hdocuments =>
    refine hfound h (List.find?_eq_none.mpr fun e he => ?_)
    rw [beq_iff_eq]
    exact hdocuments e he

end Network

/-! ### Documents -/

namespace InfoSource

/-- Whether a text begins like the URL of a document in the web. -/
def BeginsLikeUrl (url : String) : Prop :=
  "http://".toList <+: url.toList ∨ "https://".toList <+: url.toList

theorem isWebUrl_iff {url : String} : isWebUrl url = true ↔ BeginsLikeUrl url := by
  rw [isWebUrl, Bool.or_eq_true, String.startsWith_string_iff, String.startsWith_string_iff,
    or_comm]
  rfl

/-- What has to be said of a validator whose document is under a URL, case by case. -/
structure IsReplyFor (net : Network) (url : String)
    (reply : Except SourceError (Option ValidatorInfo)) : Prop where
  /-- The server cannot be reached, or the text is no URL. -/
  unreachable : ¬net.Reaches url → reply = .error (.downloadFailed url)
  /-- The server refuses. -/
  rejected : ∀ {d : WebDocument}, net.Serves url d → d.IsRefusal →
    reply = .error (.downloadRejected url)
  /-- The content is not the document of a record. -/
  malformed : ∀ {d : WebDocument}, net.Serves url d → ¬d.IsRefusal →
    (Json.parse? d.body).bind ValidatorInfo.ofJson? = none →
      reply = .error (.malformedDocument url)
  /-- The record has no name. -/
  nameless : ∀ {d : WebDocument} {info : ValidatorInfo}, net.Serves url d → ¬d.IsRefusal →
    (Json.parse? d.body).bind ValidatorInfo.ofJson? = some info → info.name = none →
      reply = .ok none
  /-- The record has a name. -/
  named : ∀ {d : WebDocument} {info : ValidatorInfo}, net.Serves url d → ¬d.IsRefusal →
    (Json.parse? d.body).bind ValidatorInfo.ofJson? = some info → info.name.isSome = true →
      reply = .ok (some info)

theorem document_of_served {net : Network} {url : String} {d : WebDocument}
    (h : net.Serves url d) (hd : ¬d.IsRefusal) :
    document net url = (match (Json.parse? d.body).bind ValidatorInfo.ofJson? with
      | some info => .ok info
      | none => .error (.malformedDocument url)) := by
  rw [document, Network.get?_of_serves h]
  exact if_neg fun hfailure => hd (WebDocument.isFailure_iff.mp hfailure)

theorem isReplyFor_document (net : Network) (url : String) :
    IsReplyFor net url ((document net url).map ValidatorInfo.orNone) where
  unreachable := by
    intro hnot
    rw [document, Network.get?_eq_none_iff.mpr hnot]
    rfl
  rejected := by
    intro d h hd
    rw [document, Network.get?_of_serves h]
    dsimp only
    rw [if_pos (WebDocument.isFailure_iff.mpr hd)]
    rfl
  malformed := by
    intro d h hd hrecord
    rw [document_of_served h hd, hrecord]
    rfl
  nameless := by
    intro d info h hd hrecord hname
    rw [document_of_served h hd, hrecord]
    show Except.ok info.orNone = _
    rw [ValidatorInfo.orNone, ValidatorInfo.isEmpty, hname]
    rfl
  named := by
    intro d info h hd hrecord hname
    rw [document_of_served h hd, hrecord]
    show Except.ok info.orNone = _
    rw [ValidatorInfo.orNone, ValidatorInfo.isEmpty, Option.isNone_eq_false_iff.mpr hname]
    rfl

/-! ### The source -/

section Network

variable {net : Network} {contract : Address} {id : UInt256}

/-- The call by which the node is asked for the URL of a validator's document. -/
def infoCall (contract : Address) (id : UInt256) : Network.Request :=
  .call contract ((Abi.selectorOf "getInfo(uint256)").bytes ++ Bytes.ofNat 32 id.toNat)

theorem ofNetwork_of_no_reply (h : net.infoText? = none) :
    (ofNetwork net contract id).reply = .error (.unreadableRecord id) ∧
      (ofNetwork net contract id).requests = [infoCall contract id] := by
  unfold ofNetwork
  rw [h]
  exact ⟨rfl, rfl⟩

/-- Without a URL nothing was published, and nothing is downloaded. -/
theorem ofNetwork_of_no_url {text : String} (h : net.infoText? = some text)
    (hurl : ¬BeginsLikeUrl (Text.trim text)) :
    (ofNetwork net contract id).reply = .ok none ∧
      (ofNetwork net contract id).requests = [infoCall contract id] := by
  rw [← isWebUrl_iff, Bool.not_eq_true] at hurl
  unfold ofNetwork
  rw [h]
  dsimp only
  rw [hurl]
  cases (Text.trim text).isEmpty with
  | true => exact ⟨rfl, rfl⟩
  | false => exact ⟨rfl, rfl⟩

/-- **Source**: with a URL there is one download, of the document under just that URL. -/
theorem isReplyFor_ofNetwork {text : String} (h : net.infoText? = some text)
    (hurl : BeginsLikeUrl (Text.trim text)) :
    IsReplyFor net (Text.trim text) (ofNetwork net contract id).reply ∧
      (ofNetwork net contract id).requests
        = [infoCall contract id, .document (Text.trim text)] := by
  have hempty : (Text.trim text).isEmpty = false := by
    rw [Bool.eq_false_iff, ne_eq, String.isEmpty_iff]
    intro hnil
    rw [hnil, BeginsLikeUrl] at hurl
    exact hurl.elim (fun h => absurd h (by decide)) fun h => absurd h (by decide)
  rw [← isWebUrl_iff] at hurl
  unfold ofNetwork
  rw [h]
  dsimp only
  rw [hempty, hurl]
  exact ⟨isReplyFor_document net (Text.trim text), rfl⟩

end Network

end InfoSource

end OffChain
