import OffChain.Proofs.Cache.Refusal
import OffChain.Proofs.Network.Inquiry
import OffChain.Proofs.Network.Reply

/-!
# Failures are not remembered

An archive keeps what a source says, that nothing was published included, and of a failure it keeps
nothing.

* `Archive.Survives`, `Archive.Remembers`: what a failure leaves of an archive, and what the archive
  keeps of an answer.
* `failures_are_not_remembered`: the source over any network, and any archive over that source.
-/

namespace OffChain

/-! ### The cache -/

/-- What is not found is not found the second time either. -/
theorem Cache.find_again {c : Cache} {id : UInt256} (h : (c.find id).value.2 = none) :
    ((c.find id).value.1.find id).value = ((c.find id).value.1, none) := by
  rcases find_fst_of_isStale c id with hsame | ⟨-, herased⟩
  · rw [hsame]
    exact Prod.ext hsame h
  · -- the entry is gone, and there is no other one of the key
    have hgone : (c.erase (keyOf id)).entries.find? (fun e => e.key == keyOf id) = none := by
      refine List.find?_eq_none.mpr fun e he => ?_
      rw [beq_iff_eq]
      exact key_ne_of_mem_erase he
    rw [herased]
    unfold find
    rw [hgone]
    rfl

/-! ### The archive -/

namespace Archive

variable {archive : Archive} {id : UInt256}

theorem cachedInfo_value (archive : Archive) (id : UInt256) :
    (archive.cachedInfo id).value
      = ({ archive with cache := (archive.cache.find id).value.1 },
        (archive.cache.find id).value.2) := rfl

/-- **Failed search**: the cache is as it was, but for an entry of that validator that is no longer
good. -/
theorem findInfo_of_error {e : SourceError} (h : (archive.source id).reply = .error e) :
    ((archive.findInfo id).value.1.cache = archive.cache ∨
        archive.cache.isStale = true ∧
          (archive.findInfo id).value.1.cache = archive.cache.erase (Cache.keyOf id)) ∧
      (archive.findInfo id).value.2
        = (archive.cachedInfo id).value.2.bind ValidatorInfo.orNone := by
  have hcache : (archive.findInfo id).value.1.cache = (archive.cache.find id).value.1 ∧
      (archive.findInfo id).value.2
        = (archive.cachedInfo id).value.2.bind ValidatorInfo.orNone := by
    rw [findInfo_value, cachedInfo_value]
    cases (archive.cache.find id).value.2 with
    | some info => exact ⟨rfl, rfl⟩
    | none =>
      dsimp only
      rw [fetchInfo_value, h]
      exact ⟨rfl, rfl⟩
  refine ⟨?_, hcache.2⟩
  rw [hcache.1]
  exact Cache.find_fst_of_isStale archive.cache id

/-- **Next search**: after one that failed, the source is asked again, and what it says then is what
is found. -/
theorem findInfo_again {e : SourceError} (h : (archive.source id).reply = .error e)
    (hmiss : (archive.cachedInfo id).value.2 = none) (later : InfoSource) :
    (({ (archive.findInfo id).value.1 with source := later } : Archive).findInfo id).value.1.asked
        = archive.asked ++ [id, id] ∧
      .found (({ (archive.findInfo id).value.1 with source := later } :
        Archive).findInfo id).value.2 = answer later (.find id) := by
  have hnone : (archive.cache.find id).value.2 = none := hmiss
  have hfailed : (archive.findInfo id).value.1
      = { archive with
          cache := (archive.cache.find id).value.1
          asked := archive.asked ++ [id] } := by
    rw [findInfo_value, cachedInfo_value, hnone]
    dsimp only
    rw [fetchInfo_value, h]
  rw [hfailed, findInfo_value, cachedInfo_value, Cache.find_again hnone]
  dsimp only
  rw [fetchInfo_value]
  dsimp only
  have hasked : archive.asked ++ [id] ++ [id] = archive.asked ++ [id, id] := by
    rw [List.append_assoc, List.singleton_append]
  cases hsaid : (later id).reply with
  | error e' =>
    rw [answer, hsaid]
    exact ⟨hasked, rfl⟩
  | ok said =>
    rw [answer_find hsaid]
    exact ⟨hasked, rfl⟩

/-! ### Main result -/

/-- What a failure of the source leaves of an archive. -/
structure Survives (archive : Archive) (id : UInt256) (e : SourceError) : Prop where
  /-- Fetching reports the failure, and nothing is kept. -/
  fetch : (archive.fetchInfo id).value
    = ({ archive with asked := archive.asked ++ [id] }, .error e)
  /-- Finding leaves the cache alone, but for an entry of that validator that is no longer good. -/
  cache : (archive.findInfo id).value.1.cache = archive.cache ∨
    archive.cache.isStale = true ∧
      (archive.findInfo id).value.1.cache = archive.cache.erase (Cache.keyOf id)
  /-- What is found is what is in the cache. -/
  found : (archive.findInfo id).value.2 = (archive.cachedInfo id).value.2.bind ValidatorInfo.orNone
  /-- If that is nothing, the next search asks again, and finds what the source says by then. -/
  again : (archive.cachedInfo id).value.2 = none → ∀ later : InfoSource,
    let next : Archive := { (archive.findInfo id).value.1 with source := later }
    (next.findInfo id).value.1.asked = archive.asked ++ [id, id] ∧
      .found (next.findInfo id).value.2 = answer later (.find id)

theorem survives_of_error {e : SourceError} (h : (archive.source id).reply = .error e) :
    archive.Survives id e where
  fetch := by rw [fetchInfo_value, h]
  cache := (findInfo_of_error h).1
  found := (findInfo_of_error h).2
  again := findInfo_again h

/-- What an archive remembers of what the source said. -/
structure Remembers (archive : Archive) (id : UInt256) (said : Option ValidatorInfo) : Prop where
  /-- Fetching keeps it, and the empty record if that was nothing. -/
  fetch : (archive.fetchInfo id).value
    = ({ archive with
          cache := archive.cache.after (.insert id (said.getD .none))
          asked := archive.asked ++ [id] }, .ok (said.getD .none))
  /-- So does finding what is not in the cache. -/
  find : (archive.cachedInfo id).value.2 = none → (archive.findInfo id).value
    = ({ archive with
          cache := (archive.cachedInfo id).value.1.cache.after (.insert id (said.getD .none))
          asked := archive.asked ++ [id] }, (said.getD .none).orNone)

theorem remembers_of_ok {said : Option ValidatorInfo} (h : (archive.source id).reply = .ok said) :
    archive.Remembers id said where
  fetch := by rw [fetchInfo_value, h]
  find := by
    intro hmiss
    have hnone : (archive.cache.find id).value.2 = none := hmiss
    rw [findInfo_value, cachedInfo_value, hnone]
    dsimp only
    rw [fetchInfo_value, h]

end Archive

open InfoSource in
/-- **Failures**: a source over the network says that it failed or what was published, depending on
the text that the node replies, if it does, and on what is under the URL in it; and an archive
remembers what was published and no failure. -/
theorem failures_are_not_remembered (net : Network) (contract : Address) (id : UInt256)
    (archive : Archive) :
    let inquiry := ofNetwork net contract id
    let home : Archive := { archive with source := ofNetwork net contract }
    (net.IsSilent → net.infoText? = none) ∧
    (∀ text, net.Says text → net.infoText? = some text) ∧
    (net.infoText? = none →
      inquiry.reply = .error (.unreadableRecord id) ∧
        inquiry.requests = [infoCall contract id]) ∧
    (∀ text, net.infoText? = some text → ∃ url,
      (∀ s, Text.IsTrimOf s text ↔ s = url) ∧
      (¬BeginsLikeUrl url →
        inquiry.reply = .ok none ∧ inquiry.requests = [infoCall contract id]) ∧
      (BeginsLikeUrl url →
        IsReplyFor net url inquiry.reply ∧
          inquiry.requests = [infoCall contract id, .document url])) ∧
    (∀ e, inquiry.reply = .error e → home.Survives id e) ∧
    (∀ said, inquiry.reply = .ok said → home.Remembers id said) := by
  refine ⟨Network.infoText?_of_isSilent, fun _ => Network.infoText?_of_says,
    ofNetwork_of_no_reply, fun text htext => ?_, ?_, ?_⟩
  · exact ⟨Text.trim text, fun _ => Text.isTrimOf_iff, ofNetwork_of_no_url htext,
      isReplyFor_ofNetwork htext⟩
  · exact fun e he => Archive.survives_of_error he
  · exact fun said hsaid => Archive.remembers_of_ok hsaid

/-! ### An outage -/

/-- Where a validator publishes its document. -/
def homepageUrl : String := "http://val.example/info"

/-- The text that the node knows of the validator: this URL, with blanks around it. -/
def homepageText : String := " http://val.example/info\r\n"

/-- A network with one document, under this URL. -/
def homepage (d : WebDocument) : Network where
  isUp := true
  blockReply := none
  callReply := some (Bytes.toJson (Network.encodingOf homepageText ++ List.replicate 6 0))
  documents := [(homepageUrl, d)]

theorem says_homepage (d : WebDocument) : (homepage d).Says homepageText where
  isUp := rfl
  fits := by decide +kernel
  reply := ⟨List.replicate 6 0, rfl⟩

theorem serves_homepage (d : WebDocument) : (homepage d).Serves homepageUrl d := by
  have hscheme : Network.scheme? homepageUrl = some "http" := by decide +kernel
  have hdocuments : (homepage d).documents = [] ++ (homepageUrl, d) :: [] := rfl
  refine .listed ⟨rfl, "http", List.mem_singleton_self "http", hscheme⟩ hdocuments ?_
  exact fun e he => absurd he List.not_mem_nil

theorem trim_homepageText : Text.trim homepageText = homepageUrl := by
  rw [homepageText, Text.trim, String.toList_ofList]
  rfl

theorem beginsLikeUrl_homepageUrl : InfoSource.BeginsLikeUrl homepageUrl :=
  .inl (by decide +kernel)

/-- What the validator publishes there. -/
def alpha : ValidatorInfo :=
  ⟨some "Alpha", none, none, none⟩

open InfoSource in
/-- While the server of a validator's document is out of order, that is said and nothing is
remembered; when it hands the document out again, that is said and remembered. -/
theorem outage_is_not_remembered :
    let down := homepage ⟨503, ""⟩
    let up := homepage ⟨200, "\x7b\"name\":\"Alpha\"\x7d"⟩
    let archive := Archive.ofStore Config.standard Store.empty InfoSource.offline
    let requests := [infoCall FixedBytes.zero 1, .document homepageUrl]
    (ofNetwork down FixedBytes.zero 1).reply = .error (.downloadRejected homepageUrl) ∧
      (ofNetwork down FixedBytes.zero 1).requests = requests ∧
      ({ archive with source := ofNetwork down FixedBytes.zero } : Archive).Survives 1
        (.downloadRejected homepageUrl) ∧
      (ofNetwork up FixedBytes.zero 1).reply = .ok (some alpha) ∧
      (ofNetwork up FixedBytes.zero 1).requests = requests ∧
      ({ archive with source := ofNetwork up FixedBytes.zero } : Archive).Remembers 1
        (some alpha) := by
  intro down up archive requests
  have hrecord : (Json.parse? "\x7b\"name\":\"Alpha\"\x7d").bind ValidatorInfo.ofJson?
      = some alpha := by
    rw [Json.parse?_ofList]
    decide +kernel
  have hurl : ∀ {url}, (∀ s, Text.IsTrimOf s homepageText ↔ s = url) → url = homepageUrl := by
    intro url htrim
    rw [← trim_homepageText]
    exact ((htrim _).mp (Text.isTrimOf_trim _)).symm
  obtain ⟨-, hsaid, -, hdown, hsurvives, -⟩ :=
    failures_are_not_remembered down FixedBytes.zero 1 archive
  obtain ⟨url, htrim, -, hdown⟩ := hdown _ (hsaid _ (says_homepage _))
  obtain rfl := hurl htrim
  obtain ⟨hrejected, hasked⟩ := hdown beginsLikeUrl_homepageUrl
  have hreply := hrejected.rejected (serves_homepage _) ⟨by decide, by decide⟩
  obtain ⟨-, hsaid', -, hup, -, hremembers⟩ :=
    failures_are_not_remembered up FixedBytes.zero 1 archive
  obtain ⟨url, htrim, -, hup⟩ := hup _ (hsaid' _ (says_homepage _))
  obtain rfl := hurl htrim
  obtain ⟨hnamed, hasked'⟩ := hup beginsLikeUrl_homepageUrl
  have hreply' := hnamed.named (serves_homepage _) (fun h => absurd h.1 (by decide)) hrecord rfl
  exact ⟨hreply, hasked, hsurvives _ hreply, hreply', hasked', hremembers _ hreply'⟩

end OffChain
