import Mathlib.Data.List.Induction
import OffChain.Proofs.Cache.Refusal

/-!
# How often the source is asked

If the documents of all validators that are searched for fit into the budget together, the cache
never has to make room: it holds just these documents, in the order in which the validators were
searched for first (`Archive.HasFound`).  So what the source once said of a validator is found from
then on, also that nothing was published, and only failures are asked for again.

* `Archive.HasFound.findInfo`, `Archive.HasFound.findAll`: what one search and what any searches
  leave.
* `Archive.source_is_asked_once`: how often the source was asked for a validator.
-/

namespace OffChain

namespace Cache

variable {c : Cache} {id : UInt256} {info : ValidatorInfo}

/-- A record of a new validator for which there is room: nothing has to go. -/
theorem after_insert_of_fits (hnew : ∀ e ∈ c.entries, e.key ≠ keyOf id)
    (hfits : c.used + (encode info).utf8ByteSize ≤ c.budget) :
    c.after (.insert id info) = c.append ⟨keyOf id, encode info⟩ := by
  have hkept : (c.entries.filter fun e => e.key != keyOf id) = c.entries :=
    List.filter_eq_self.mpr fun e he => bne_iff_ne.mpr (hnew e he)
  have hgone : (c.entries.filter fun e => e.key == keyOf id) = [] :=
    List.filter_eq_nil_iff.mpr fun e he => by
      rw [beq_iff_eq]
      exact hnew e he
  have herase : c.erase (keyOf id) = c := by
    rw [erase, hkept, hgone]
    rfl
  have hle : (encode info).utf8ByteSize ≤ c.budget := by omega
  rw [after, insert_of_le hle, herase, trimFor, if_pos hfits]

end Cache

namespace Archive

/-! ### Documents -/

/-- The document that is to be kept of a validator: none if the source fails. -/
def document? (source : InfoSource) (id : UInt256) : Option CachedDocument :=
  match (source id).reply with
  | .ok said => some ⟨Cache.keyOf id, Cache.encode (said.getD .none)⟩
  | .error _ => none

/-- The documents of some validators, each of them once, in the order in which they come up. -/
def documents (source : InfoSource) (ids : List UInt256) : List CachedDocument :=
  ids.eraseDups.filterMap (document? source)

variable {source : InfoSource} {ids : List UInt256} {id : UInt256}

theorem key_of_document? {e : CachedDocument} (h : document? source id = some e) :
    e.key = Cache.keyOf id := by
  unfold document? at h
  split at h
  · rw [← Option.some.inj h]
  · cases h

theorem mem_documents {e : CachedDocument} :
    e ∈ documents source ids ↔ ∃ i ∈ ids, document? source i = some e := by
  simp only [documents, List.mem_filterMap, List.mem_eraseDups]

/-- One more validator adds its document if it did not come up before. -/
theorem documents_concat (source : InfoSource) (ids : List UInt256) (id : UInt256) :
    documents source (ids ++ [id]) = documents source ids
      ++ if id ∈ ids then [] else (document? source id).toList := by
  rw [documents, List.eraseDups_append, List.filterMap_append, documents]
  refine congrArg (_ ++ ·) ?_
  by_cases hmem : id ∈ ids
  · have hnone : ([id].removeAll ids).eraseDups = [] := by simp [List.removeAll, hmem]
    rw [hnone, if_pos hmem]
    rfl
  · have hone : ([id].removeAll ids).eraseDups = [id] := by
      simp [List.removeAll, hmem, List.eraseDups_cons]
    rw [hone, if_neg hmem, List.filterMap_cons]
    cases document? source id <;> rfl

/-- Under the key of a validator there is its document, if it came up. -/
theorem find?_documents (source : InfoSource) (ids : List UInt256) (id : UInt256) :
    (documents source ids).find? (fun e => e.key == Cache.keyOf id)
      = if id ∈ ids then document? source id else none := by
  cases hfind : (documents source ids).find? (fun e => e.key == Cache.keyOf id) with
  | none =>
    -- its document would have been found
    have hnone := List.find?_eq_none.mp hfind
    split
    · rename_i hmem
      cases hdocument : document? source id with
      | none => rfl
      | some e =>
        have hkey := hnone e (mem_documents.mpr ⟨id, hmem, hdocument⟩)
        rw [key_of_document? hdocument, beq_self_eq_true] at hkey
        exact absurd rfl hkey
    · rfl
  | some e =>
    obtain ⟨owner, howner, hdocument⟩ := mem_documents.mp (List.mem_of_find?_eq_some hfind)
    -- the key is that of its owner, so the owner is this validator
    have hkey := List.find?_some hfind
    rw [key_of_document? hdocument, beq_iff_eq, Cache.keyOf_inj] at hkey
    subst hkey
    rw [if_pos howner, hdocument]

/-! ### Searches -/

/-- Searches for some validators, first one first. -/
def findAll (archive : Archive) (ids : List UInt256) : Archive :=
  ids.foldl (fun archive id => (archive.findInfo id).value.1) archive

/-- How often a source has to be asked for a validator when some validators are searched for: once,
or as often as it is searched for if the source fails. -/
def inquiries (source : InfoSource) (ids : List UInt256) (id : UInt256) : Nat :=
  match (source id).reply with
  | .ok _ => if id ∈ ids then 1 else 0
  | .error _ => ids.count id

/-- Whether one more search needs the source. -/
def isUnsettled (source : InfoSource) (ids : List UInt256) (id : UInt256) : Bool :=
  match (source id).reply with
  | .ok _ => decide (id ∉ ids)
  | .error _ => true

theorem inquiries_concat (source : InfoSource) (ids : List UInt256) (id i : UInt256) :
    inquiries source (ids ++ [id]) i
      = inquiries source ids i + if isUnsettled source ids id then [id].count i else 0 := by
  unfold inquiries isUnsettled
  by_cases hi : i = id
  · subst hi
    cases (source i).reply with
    | ok said => by_cases hmem : i ∈ ids <;> simp [hmem]
    | error e => simp
  · have hne : ¬id = i := fun h => hi h.symm
    have hcount : [id].count i = 0 := by simp [hne]
    rw [hcount, ite_self, Nat.add_zero]
    cases (source i).reply with
    | ok said => simp [hi]
    | error e => simp [hne]

/-- An archive over a source in which some validators were searched for, while their documents fit
into the cache. -/
structure HasFound (archive : Archive) (source : InfoSource) (ids : List UInt256) : Prop where
  /-- The source is that one. -/
  source_eq : archive.source = source
  /-- Entries are good. -/
  isStale : archive.cache.isStale = false
  /-- The accounts of the cache are right. -/
  sound : archive.cache.Sound
  /-- It holds the documents. -/
  entries_eq : archive.cache.entries = documents source ids
  /-- The source was asked for each validator as often as it had to be. -/
  count_asked : ∀ id, archive.asked.count id = inquiries source ids id

variable {archive : Archive}

theorem HasFound.recordOf? (h : archive.HasFound source ids) (id : UInt256) :
    archive.cache.recordOf? id =
      match (source id).reply with
      | .ok said => if id ∈ ids then some (said.getD .none) else none
      | .error _ => none := by
  rw [Cache.recordOf?, h.entries_eq, find?_documents, document?]
  cases (source id).reply with
  | error e => split <;> rfl
  | ok said =>
    split
    · exact Cache.decode?_encode _
    · rfl

/-- While entries are good, a search that hits changes nothing, and one that misses fetches. -/
theorem findInfo_fst (h : archive.cache.isStale = false) (id : UInt256) :
    (archive.findInfo id).value.1 =
      match archive.cache.recordOf? id with
      | some _ => archive
      | none => (archive.fetchInfo id).value.1 := by
  rw [findInfo_value, cachedInfo_of_good h]
  cases archive.cache.recordOf? id with
  | some info => rfl
  | none =>
    dsimp only
    generalize (archive.fetchInfo id).value = result
    obtain ⟨fetched, reply⟩ := result
    cases reply <;> rfl

/-- A validator of which the source said something is found, and nothing changes. -/
theorem HasFound.findInfo_of_mem (h : archive.HasFound source ids) {said : Option ValidatorInfo}
    (hsaid : (source id).reply = .ok said) (hmem : id ∈ ids) :
    (archive.findInfo id).value.1 = archive := by
  have hcached := h.recordOf? id
  simp only [hsaid, if_pos hmem] at hcached
  rw [findInfo_fst h.isStale, hcached]

/-- A new validator is asked for, and its document added. -/
theorem HasFound.findInfo_of_not_mem (h : archive.HasFound source ids)
    {said : Option ValidatorInfo} (hsaid : (source id).reply = .ok said) (hmem : id ∉ ids)
    (hfits : archive.cache.used + (Cache.encode (said.getD .none)).utf8ByteSize
      ≤ archive.cache.budget) :
    archive.cache.after (.insert id (said.getD .none))
        = archive.cache.append ⟨Cache.keyOf id, Cache.encode (said.getD .none)⟩ ∧
      (archive.findInfo id).value.1
        = { archive with
            cache := archive.cache.after (.insert id (said.getD .none))
            asked := archive.asked ++ [id] } := by
  have hcached := h.recordOf? id
  simp only [hsaid, if_neg hmem] at hcached
  have hnew : ∀ e ∈ archive.cache.entries, e.key ≠ Cache.keyOf id := by
    intro e he hkey
    rw [h.entries_eq, mem_documents] at he
    obtain ⟨owner, howner, hdocument⟩ := he
    rw [key_of_document? hdocument, Cache.keyOf_inj] at hkey
    exact hmem (hkey ▸ howner)
  refine ⟨Cache.after_insert_of_fits hnew hfits, ?_⟩
  have hsaid' : (archive.source id).reply = .ok said := h.source_eq ▸ hsaid
  rw [findInfo_fst h.isStale, hcached, fetchInfo_value, hsaid']

/-- A validator for which the source fails is asked for again. -/
theorem HasFound.findInfo_of_error (h : archive.HasFound source ids) {e : SourceError}
    (hsaid : (source id).reply = .error e) :
    (archive.findInfo id).value.1 = { archive with asked := archive.asked ++ [id] } := by
  have hcached := h.recordOf? id
  simp only [hsaid] at hcached
  have hsaid' : (archive.source id).reply = .error e := h.source_eq ▸ hsaid
  rw [findInfo_fst h.isStale, hcached, fetchInfo_value, hsaid']

/-- **Step**: one more search. -/
theorem HasFound.findInfo (h : archive.HasFound source ids)
    (hfits : Cache.totalSize (documents source (ids ++ [id])) ≤ archive.cache.budget) :
    (archive.findInfo id).value.1.HasFound source (ids ++ [id]) ∧
      (archive.findInfo id).value.1.cache.budget = archive.cache.budget := by
  have hdocuments := documents_concat source ids id
  have hinquiries := inquiries_concat source ids id
  unfold isUnsettled at hinquiries
  unfold document? at hdocuments
  cases hsaid : (source id).reply with
  | error e =>
    -- nothing is kept
    rw [hsaid, Option.toList_none, ite_self, List.append_nil] at hdocuments
    rw [hsaid] at hinquiries
    dsimp only at hinquiries
    rw [h.findInfo_of_error hsaid]
    refine ⟨⟨h.source_eq, h.isStale, h.sound, h.entries_eq.trans hdocuments.symm, ?_⟩, rfl⟩
    intro i
    rw [List.count_append, h.count_asked, hinquiries, if_pos rfl]
  | ok said =>
    rw [hsaid] at hdocuments hinquiries
    dsimp only at hdocuments hinquiries
    by_cases hmem : id ∈ ids
    · rw [if_pos hmem, List.append_nil] at hdocuments
      rw [h.findInfo_of_mem hsaid hmem]
      refine ⟨⟨h.source_eq, h.isStale, h.sound, h.entries_eq.trans hdocuments.symm, ?_⟩, rfl⟩
      intro i
      rw [h.count_asked, hinquiries, if_neg (by simpa using hmem), Nat.add_zero]
    · rw [if_neg hmem, Option.toList_some] at hdocuments
      -- the new document is the only one for which there has to be room
      have hroom : archive.cache.used + (Cache.encode (said.getD .none)).utf8ByteSize
          ≤ archive.cache.budget := by
        rw [hdocuments, Cache.totalSize_append, ← h.entries_eq, ← h.sound.used_eq] at hfits
        exact hfits
      obtain ⟨hcache, hnext⟩ := h.findInfo_of_not_mem hsaid hmem hroom
      obtain ⟨hsound, hbudget⟩ := h.sound.after (.insert id (said.getD .none))
      rw [hnext]
      refine ⟨⟨h.source_eq, ?_, hsound, ?_, fun i => ?_⟩, hbudget⟩
      · show (archive.cache.after _).isStale = false
        rw [Cache.isStale, Cache.lifetime_after]
        exact h.isStale
      · show (archive.cache.after _).entries = _
        rw [hcache, hdocuments, ← h.entries_eq]
        rfl
      · rw [List.count_append, h.count_asked, hinquiries, if_pos (by simpa using hmem)]

/-- **Run**: any searches. -/
theorem HasFound.findAll (h : archive.HasFound source [])
    (hfits : Cache.totalSize (documents source ids) ≤ archive.cache.budget) :
    (archive.findAll ids).HasFound source ids ∧
      (archive.findAll ids).cache.budget = archive.cache.budget := by
  -- By induction on the searches, the last one apart: documents never go, so those of the earlier
  -- searches fit as well.
  induction ids using List.reverseRecOn with
  | nil => exact ⟨h, rfl⟩
  | append_singleton ids id ih =>
    have hle : Cache.totalSize (documents source ids)
        ≤ Cache.totalSize (documents source (ids ++ [id])) := by
      rw [documents_concat, Cache.totalSize_append]
      exact Nat.le_add_right _ _
    obtain ⟨hfound, hbudget⟩ := ih (Nat.le_trans hle hfits)
    have hnext : archive.findAll (ids ++ [id]) = ((archive.findAll ids).findInfo id).value.1 := by
      rw [Archive.findAll, Archive.findAll, List.foldl_append, List.foldl_cons, List.foldl_nil]
    obtain ⟨hstep, hsame⟩ := hfound.findInfo (hbudget ▸ hfits)
    rw [hnext]
    exact ⟨hstep, hsame.trans hbudget⟩

theorem hasFound_ofStore (config : Config) (h : config.cacheLifetime ≠ 0) (store : Store)
    (source : InfoSource) : (ofStore config store source).HasFound source [] where
  source_eq := rfl
  isStale := beq_eq_false_iff_ne.mpr h
  sound := Cache.empty_sound config.cacheLifetime config.cacheBudget
  entries_eq := rfl
  count_asked := by
    intro id
    unfold inquiries
    cases (source id).reply <;> rfl

/-- **Inquiries**: if entries stay good and all documents fit together, a source is asked once for
every validator of which it says something, be it that nothing was published, and as often as
searched for if it fails. -/
theorem source_is_asked_once (config : Config) (hlifetime : config.cacheLifetime ≠ 0)
    (store : Store) (source : InfoSource) (ids : List UInt256)
    (hfits : Cache.totalSize (documents source ids) ≤ config.cacheBudget) (id : UInt256) :
    ((ofStore config store source).findAll ids).asked.count id =
      match (source id).reply with
      | .ok _ => if id ∈ ids then 1 else 0
      | .error _ => ids.count id :=
  ((hasFound_ofStore config hlifetime store source).findAll hfits).1.count_asked id

/-- A source that knows the name of the first validator, knows that the second one published
nothing, and fails for all others. -/
def patchy : InfoSource :=
  fun id =>
    if id = 1 then ⟨[], [], .ok (some (named "A"))⟩
    else if id = 2 then ⟨[], [], .ok none⟩
    else ⟨[], [], .error (.unreadableRecord id)⟩

/-- A cache that has room for the document of a name and for an empty one, but not for more. -/
def snug : Config :=
  { Config.standard with cacheBudget := Cache.totalSize (documents patchy [1, 2]) }

/-- Seven searches for three validators. -/
theorem asked_once_by_snug_archive :
    snug.cacheLifetime ≠ 0 ∧
      Cache.totalSize (documents patchy [1, 2, 3, 1, 2, 3, 3]) ≤ snug.cacheBudget ∧
      ∀ id, ((ofStore snug .empty patchy).findAll [1, 2, 3, 1, 2, 3, 3]).asked.count id
        = if id = 1 ∨ id = 2 then 1 else [1, 2, 3, 1, 2, 3, 3].count id := by
  have hlifetime : snug.cacheLifetime ≠ 0 := by decide
  have hfits : Cache.totalSize (documents patchy [1, 2, 3, 1, 2, 3, 3]) ≤ snug.cacheBudget := by
    decide +kernel
  refine ⟨hlifetime, hfits, fun id => ?_⟩
  rw [source_is_asked_once snug hlifetime .empty patchy _ hfits id, patchy]
  by_cases h1 : id = 1
  · subst h1
    rfl
  · by_cases h2 : id = 2
    · subst h2
      rfl
    · rw [if_neg h1, if_neg h2, if_neg (not_or.mpr ⟨h1, h2⟩)]

end Archive

end OffChain
