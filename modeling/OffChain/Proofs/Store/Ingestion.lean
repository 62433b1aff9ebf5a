import Mathlib.Data.Finset.Card
import OffChain.Proofs.Store.RequestLog

/-!
# What ingestion keeps

What was ever offered to the table of withdrawal requests comes down to one list: the requests of
the batches that did not fail, one batch after the other (`Store.taken`).  The n-th of them has the
number n, and it has a row exactly if none before it is of its key.  So the first request of a key
stays, passed over or not every request uses up a number, and a batch that fails gives all its
numbers back.

* `RequestLog.IsOf`: a log that has this to do with a list of requests; offering one more request
  keeps it (`RequestLog.IsOf.offer`), and so does any ingestion (`RequestLog.IsOf.ingest`).
* `ingestion_keeps_first_requests`: the table after any batches, when one more batch fails, how many
  rows it adds if it does not, and that it leaves everything as it was if it does.
-/

namespace OffChain

namespace WithdrawRequest

/-- What requests are told apart by: the delegator, the validator and the identifier. -/
def key (r : WithdrawRequest) : Address × UInt256 × UInt256 :=
  (r.address, r.stakerId, r.requestId)

theorem sameKey_iff {r q : WithdrawRequest} : r.sameKey q = true ↔ r.key = q.key := by
  simp [sameKey, key, and_assoc]

/-- Whether one of the times of a request is too great for an integer column. -/
def IsLate (r : WithdrawRequest) : Prop :=
  Store.maxInteger < r.createdTime.toNat ∨
    ∃ t, r.withdrawTime = some t ∧ Store.maxInteger < t.toNat

theorem isStorable_iff {r : WithdrawRequest} : r.isStorable = true ↔ ¬r.IsLate := by
  cases h : r.withdrawTime <;> simp [isStorable, IsLate, Store.fitsColumn, h]

end WithdrawRequest

/-! ### First requests of their keys -/

/-- Whether a request stands at a place in a list and none before it is of its key. -/
def IsFirstOfKey (requests : List WithdrawRequest) (i : Nat) (r : WithdrawRequest) : Prop :=
  requests[i]? = some r ∧ ∀ q ∈ requests.take i, q.key ≠ r.key

/-- One more request is the first of its key if that is new; otherwise nothing changes. -/
theorem isFirstOfKey_concat {requests : List WithdrawRequest} {r q : WithdrawRequest} {i : Nat} :
    IsFirstOfKey (requests ++ [r]) i q ↔
      IsFirstOfKey requests i q ∨
        i = requests.length ∧ q = r ∧ r.key ∉ requests.map WithdrawRequest.key := by
  unfold IsFirstOfKey
  -- Earlier places have the same requests as before, the last one has the new request only, and
  -- behind it there is nothing.
  rcases Nat.lt_trichotomy i requests.length with hlt | rfl | hgt
  · rw [List.getElem?_append_left hlt, List.take_append_of_le_length hlt.le]
    refine ⟨Or.inl, fun h => h.elim id fun h => absurd h.1 hlt.ne⟩
  · rw [List.getElem?_concat_length, List.take_left, List.getElem?_length, Option.some.injEq]
    constructor
    · rintro ⟨rfl, hnew⟩
      refine Or.inr ⟨rfl, rfl, fun hmem => ?_⟩
      obtain ⟨p, hp, hkey⟩ := List.mem_map.mp hmem
      exact hnew p hp hkey
    · rintro (⟨hnone, -⟩ | ⟨-, rfl, hnew⟩)
      · cases hnone
      · exact ⟨rfl, fun p hp hkey => hnew (List.mem_map.mpr ⟨p, hp, hkey⟩)⟩
  · have hnone : ∀ rs : List WithdrawRequest, rs.length ≤ i → rs[i]? ≠ some q := by
      intro rs hle hsome
      rw [List.getElem?_eq_none hle] at hsome
      cases hsome
    refine iff_of_false (fun h => hnone _ ?_ h.1) ?_
    · rw [List.length_append, List.length_singleton]
      exact hgt
    · rintro (⟨hsome, -⟩ | ⟨heq, -⟩)
      · exact hnone _ hgt.le hsome
      · exact absurd heq hgt.ne'

/-! ### Logs -/

namespace RequestLog

/-- What a log has to do with the requests that were taken, first one first. -/
structure IsOf (log : RequestLog) (taken : List WithdrawRequest) : Prop where
  /-- Every request took a number. -/
  lastSeq_eq : log.lastSeq = taken.length
  /-- There is an entry for the first request of each key, under its number. -/
  mem_entries_iff : ∀ e, e ∈ log.entries ↔ ∃ i, IsFirstOfKey taken i e.2 ∧ e.1 = i + 1
  /-- The keys are those of the requests. -/
  knows_iff : ∀ r, log.knows r = true ↔ r.key ∈ taken.map WithdrawRequest.key

theorem empty_isOf : empty.IsOf [] where
  lastSeq_eq := rfl
  mem_entries_iff := fun e => by simp [empty, IsFirstOfKey]
  knows_iff := fun r => by simp [empty, knows]

variable {log : RequestLog} {taken : List WithdrawRequest}

theorem knows_offer (log : RequestLog) (r q : WithdrawRequest) :
    (log.offer r).knows q = true ↔ log.knows q = true ∨ q.key = r.key := by
  unfold offer
  split
  · rename_i hknown
    refine ⟨Or.inl, fun h => h.elim id fun hkey => ?_⟩
    -- the key is there already, under an earlier request
    obtain ⟨e, he, hsame⟩ := List.any_eq_true.mp hknown
    refine List.any_eq_true.mpr ⟨e, he, ?_⟩
    rw [WithdrawRequest.sameKey_iff] at hsame ⊢
    exact hkey.trans hsame
  · show (log.entries ++ [(log.lastSeq + 1, r)]).any (fun e => q.sameKey e.2) = true ↔ _
    rw [List.any_append, Bool.or_eq_true, List.any_cons, List.any_nil, Bool.or_false,
      WithdrawRequest.sameKey_iff]
    rfl

/-- **Step**: one more request. -/
theorem IsOf.offer (h : log.IsOf taken) (r : WithdrawRequest) :
    (log.offer r).IsOf (taken ++ [r]) where
  lastSeq_eq := by
    rw [List.length_append, List.length_singleton, ← h.lastSeq_eq]
    rfl
  mem_entries_iff := by
    intro e
    have hold := h.mem_entries_iff e
    have hknown := h.knows_iff r
    simp only [isFirstOfKey_concat, or_and_right, exists_or]
    unfold RequestLog.offer
    split
    · -- it is passed over, and not the first one of its key
      rename_i hknows
      rw [hold]
      refine ⟨Or.inl, fun h => h.elim id ?_⟩
      rintro ⟨i, ⟨-, -, hnew⟩, -⟩
      exact absurd (hknown.mp hknows) hnew
    · -- it gets an entry, under the next number
      rename_i hknows
      have hnew : r.key ∉ taken.map WithdrawRequest.key := fun hmem => hknows (hknown.mpr hmem)
      rw [List.mem_append, List.mem_singleton, hold, h.lastSeq_eq]
      refine or_congr_right ⟨?_, ?_⟩
      · rintro rfl
        exact ⟨taken.length, ⟨rfl, rfl, hnew⟩, rfl⟩
      · rintro ⟨i, ⟨rfl, hr, -⟩, hseq⟩
        exact Prod.ext hseq hr
  knows_iff := by
    intro q
    rw [knows_offer, h.knows_iff, List.map_append, List.mem_append, List.map_singleton,
      List.mem_singleton]

theorem IsOf.foldl_offer (h : log.IsOf taken) (batch : List WithdrawRequest) :
    (batch.foldl RequestLog.offer log).IsOf (taken ++ batch) := by
  induction batch generalizing log taken with
  | nil =>
    rw [List.append_nil]
    exact h
  | cons r batch ih =>
    rw [List.append_cons]
    exact ih (h.offer r)

/-- There are as many entries as keys. -/
theorem IsOf.length_entries (h : log.IsOf taken) (hsound : log.Sound) :
    log.entries.length = (taken.map WithdrawRequest.key).toFinset.card := by
  -- Entries are of different keys, and all keys have one.
  have hnodup : (log.requests.map WithdrawRequest.key).Nodup := by
    rw [requests, List.map_map, List.Nodup, List.pairwise_map]
    refine hsound.distinct.imp fun {d e} hne hkey => ?_
    rw [WithdrawRequest.sameKey_iff.mpr hkey.symm] at hne
    exact Bool.noConfusion hne
  have hkeys : (taken.map WithdrawRequest.key).toFinset
      = (log.requests.map WithdrawRequest.key).toFinset := by
    ext k
    rw [List.mem_toFinset, List.mem_toFinset]
    constructor
    · intro hk
      obtain ⟨r, -, rfl⟩ := List.mem_map.mp hk
      obtain ⟨e, he, hsame⟩ := List.any_eq_true.mp ((h.knows_iff r).mpr hk)
      rw [WithdrawRequest.sameKey_iff.mp hsame]
      exact List.mem_map_of_mem (List.mem_map_of_mem he)
    · intro hk
      obtain ⟨r, hr, rfl⟩ := List.mem_map.mp hk
      obtain ⟨e, he, rfl⟩ := List.mem_map.mp hr
      obtain ⟨i, hfirst, -⟩ := (h.mem_entries_iff e).mp he
      exact List.mem_map_of_mem (List.mem_of_getElem? hfirst.1)
  rw [hkeys, List.toFinset_card_of_nodup hnodup, List.length_map, requests, List.length_map]

theorem length_rows_toLedger (log : RequestLog) :
    log.toLedger.rows.length = log.entries.length :=
  List.length_map _

/-- A batch that is taken adds an entry for each of its keys that is new. -/
theorem IsOf.length_take (h : log.IsOf taken) (hsound : log.Sound) {batch : List WithdrawRequest}
    (haccepts : log.accepts batch = true) :
    (log.take batch).entries.length = log.entries.length
      + ((batch.map WithdrawRequest.key).toFinset
          \ (taken.map WithdrawRequest.key).toFinset).card := by
  have hnext : (log.take batch).IsOf (taken ++ batch) := by
    rw [take, if_pos haccepts]
    exact h.foldl_offer batch
  rw [hnext.length_entries (take_sound hsound batch), h.length_entries hsound, List.map_append,
    List.toFinset_append, Nat.add_comm, Finset.card_sdiff_add_card, Finset.union_comm]

/-- A batch is refused for a time that is too great, or for want of numbers. -/
theorem IsOf.accepts_eq_false_iff (h : log.IsOf taken) {batch : List WithdrawRequest} :
    log.accepts batch = false ↔
      (∃ r ∈ batch, r.IsLate) ∨ Store.maxInteger < taken.length + batch.length := by
  rw [accepts, Bool.and_eq_false_iff, List.all_eq_false, decide_eq_false_iff_not, Nat.not_le,
    h.lastSeq_eq]
  simp only [WithdrawRequest.isStorable_iff, not_not]

end RequestLog

/-! ### Stores -/

namespace Store

/-- The requests of the batches that do not fail if some batches are offered to a store, one after
the other. -/
def taken : Store → List (List WithdrawRequest) → List WithdrawRequest
  | _, [] => []
  | s, batch :: batches =>
    match s.addRequests batch with
    | .ok (s, _) => batch ++ s.taken batches
    | .error _ => s.taken batches

theorem ingest_append (s : Store) (history more : List (List WithdrawRequest)) :
    s.ingest (history ++ more) = (s.ingest history).ingest more := by
  induction history generalizing s with
  | nil => rfl
  | cons batch history ih =>
    rw [List.cons_append, ingest, ingest]
    split
    · exact ih _
    · exact ih s

theorem taken_append (s : Store) (history more : List (List WithdrawRequest)) :
    s.taken (history ++ more) = s.taken history ++ (s.ingest history).taken more := by
  induction history generalizing s with
  | nil => rfl
  | cons batch history ih =>
    rw [List.cons_append, taken, taken, ingest]
    cases s.addRequests batch with
    | ok result =>
      rw [List.append_assoc]
      exact congrArg (batch ++ ·) (ih result.1)
    | error e => exact ih s

/-- A batch that does not fail is the last step of an ingestion, and is taken. -/
theorem ingest_concat_of_ok {s next : Store} {history : List (List WithdrawRequest)}
    {batch : List WithdrawRequest} {n : Nat}
    (h : (s.ingest history).addRequests batch = .ok (next, n)) :
    s.ingest (history ++ [batch]) = next ∧
      s.taken (history ++ [batch]) = s.taken history ++ batch := by
  rw [ingest_append, taken_append, ingest, taken, h]
  exact ⟨rfl, congrArg (s.taken history ++ ·) (List.append_nil batch)⟩

/-- A batch that fails leaves everything as it was. -/
theorem ingest_concat_of_error {s : Store} {history : List (List WithdrawRequest)}
    {batch : List WithdrawRequest} {e : StoreError}
    (h : (s.ingest history).addRequests batch = .error e) :
    s.ingest (history ++ [batch]) = s.ingest history ∧
      s.taken (history ++ [batch]) = s.taken history := by
  rw [ingest_append, taken_append, ingest, taken, h]
  exact ⟨rfl, List.append_nil _⟩

end Store

namespace RequestLog

/-- **Run**: a log records what was taken before and what is taken of the batches offered to it. -/
theorem IsOf.ingest {log : RequestLog} {taken : List WithdrawRequest} (h : log.IsOf taken)
    (hsound : log.Sound) (history : List (List WithdrawRequest)) :
    (history.foldl RequestLog.take log).IsOf (taken ++ (Store.ofLog log).taken history) := by
  induction history generalizing log taken with
  | nil =>
    rw [Store.taken, List.append_nil]
    exact h
  | cons batch history ih =>
    have hnext := take_sound hsound batch
    rw [List.foldl_cons, Store.taken, Store.addRequests_eq log rfl rfl hsound.lastSeq_le]
    by_cases haccepts : log.accepts batch = true
    · rw [if_pos haccepts, ← List.append_assoc]
      refine ih ?_ hnext
      rw [RequestLog.take, if_pos haccepts]
      exact h.foldl_offer batch
    · rw [if_neg haccepts]
      rw [RequestLog.take, if_neg haccepts]
      exact ih h hsound

/-- The log of some batches records what was taken of them. -/
theorem after_isOf (history : List (List WithdrawRequest)) :
    (after history).IsOf (Store.empty.taken history) :=
  empty_isOf.ingest empty_sound history

end RequestLog

open RequestLog WithdrawRequest

/-! ### Main result -/

/-- What the table of requests is after some requests were taken. -/
structure Store.Ledger.Lists (ledger : Ledger) (taken : List WithdrawRequest) : Prop where
  /-- No two rows are of one request. -/
  distinct : ledger.rows.Pairwise fun a b => b.sameKey a = false
  /-- They are listed by their numbers. -/
  ascending : ledger.rows.Pairwise fun a b => a.seq < b.seq
  /-- There is a row for the first request of each key, with all its values, under the number of its
  place. -/
  mem_rows_iff : ∀ row, row ∈ ledger.rows ↔
    ∃ i r, IsFirstOfKey taken i r ∧ row = RequestRow.ofRequest (i + 1) r
  /-- The last number is that of the last request. -/
  lastSeq_eq : ledger.lastSeq = taken.length

theorem RequestLog.IsOf.lists {log : RequestLog} {taken : List WithdrawRequest}
    (h : log.IsOf taken) (hsound : log.Sound) : log.toLedger.Lists taken where
  distinct := by
    rw [toLedger, List.pairwise_map]
    refine hsound.distinct.imp fun {d e} hne => ?_
    rw [Store.RequestRow.sameKey_ofRequest]
    exact hne
  ascending := by
    rw [toLedger, List.pairwise_map]
    exact hsound.ascending
  mem_rows_iff := by
    intro row
    rw [toLedger, List.mem_map]
    constructor
    · rintro ⟨e, he, rfl⟩
      obtain ⟨i, hfirst, hseq⟩ := (h.mem_entries_iff e).mp he
      exact ⟨i, e.2, hfirst, by rw [hseq]⟩
    · rintro ⟨i, r, hfirst, rfl⟩
      exact ⟨(i + 1, r), (h.mem_entries_iff _).mpr ⟨i, hfirst, rfl⟩, rfl⟩
  lastSeq_eq := h.lastSeq_eq

/-- **Ingestion**: whatever batches were offered to a fresh store, its table has just the first
request of each key, under its number in the order of what was taken.  One more batch fails exactly
if a time in it is too great for its column, wherever that request stands and whether or not its key
is known, or if the numbers, which are integers of 64 bits too, do not suffice for it; then rows and
numbers are as before.  Otherwise it adds a row for each of its keys that is new. -/
theorem ingestion_keeps_first_requests (history : List (List WithdrawRequest))
    (batch : List WithdrawRequest) :
    let s := Store.empty.ingest history
    let taken := Store.empty.taken history
    ∃ ledger, s.ledger = some ledger ∧ ledger.Lists taken ∧
      ((∃ e, s.addRequests batch = .error e) ↔
        (∃ r ∈ batch, r.IsLate) ∨ Store.maxInteger < taken.length + batch.length) ∧
      (∀ e, s.addRequests batch = .error e →
        Store.empty.ingest (history ++ [batch]) = s ∧
          Store.empty.taken (history ++ [batch]) = taken) ∧
      ∀ next n, s.addRequests batch = .ok (next, n) →
        Store.empty.ingest (history ++ [batch]) = next ∧
          Store.empty.taken (history ++ [batch]) = taken ++ batch ∧
          n = ((batch.map key).toFinset \ (taken.map key).toFinset).card ∧
          next.tally .withdrawRequests = .ok (ledger.rows.length + n) := by
  intro s taken
  have hsound := after_sound history
  have hisOf := after_isOf history
  have hs : s = Store.ofLog (after history) := Store.ingest_empty history
  have hadd := Store.addRequests_eq (after history) (congrArg Store.ledger hs)
    (congrArg Store.isReadOnly hs) hsound.lastSeq_le batch
  refine ⟨(after history).toLedger, congrArg Store.ledger hs, hisOf.lists hsound, ?_,
    fun e he => Store.ingest_concat_of_error he, fun next n hnext => ?_⟩
  · rw [← hisOf.accepts_eq_false_iff, hadd]
    cases (after history).accepts batch with
    | true => exact iff_of_false (fun h => nomatch h) Bool.noConfusion
    | false => exact iff_of_true ⟨_, rfl⟩ rfl
  · obtain ⟨hingest, htaken⟩ := Store.ingest_concat_of_ok hnext
    refine ⟨hingest, htaken, ?_⟩
    by_cases haccepts : (after history).accepts batch = true
    · have hlength := hisOf.length_take hsound haccepts
      rw [hadd, if_pos haccepts] at hnext
      obtain ⟨rfl, rfl⟩ := Prod.mk.inj (Except.ok.inj hnext)
      rw [hlength, Nat.add_sub_cancel_left]
      refine ⟨rfl, ?_⟩
      show Except.ok ((after history).take batch).toLedger.rows.length = _
      rw [length_rows_toLedger, length_rows_toLedger, hlength]
    · rw [hadd, if_neg haccepts] at hnext
      cases hnext

/-- A request that is there already uses up a number, and a batch that fails gives its numbers
back. -/
example :
    let request (id : UInt256) (time : UInt64) : WithdrawRequest :=
      ⟨id, FixedBytes.zero, 1, 1000, time, none⟩
    (Store.empty.ingest
        [[request 1 5, request 1 6, request 2 7], [request 3 8, request 4 0x8000000000000000],
          [request 2 9, request 3 9]]).ledger.map (fun ledger => ledger.rows.map fun row => row.seq)
      = some [1, 3, 5] := by
  decide +kernel

end OffChain
