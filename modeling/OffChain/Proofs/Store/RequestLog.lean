import Mathlib.Data.Nat.Basic
import Mathlib.Order.Basic
import OffChain.Proofs.Store.Rows

/-!
# The log of withdrawal requests

A log is what the ledger means: the requests that were let in, oldest first, each with its number,
and the last number that was given out.  A batch is taken whole or not at all; of the requests of
one key the first one stays, and every request of a batch that is taken uses up a number.

* `Ledger.offerAll_toLedger`: offering a batch to the ledger of a log does what taking it does to
  the log.
* `Store.ingest_empty`: hence a fresh store that some batches were offered to is the store of
  `RequestLog.after` these batches.
* `RequestLog.after_sound`: in such a log the numbers ascend, no key occurs twice, and no number
  exceeds what an integer column can hold.
* `RequestLog.Extends`: a log that took more batches has the old entries and after them others with
  greater numbers.
-/

namespace OffChain

/-- The withdrawal requests that were let in, and the last number that was given out. -/
structure RequestLog where
  /-- The requests and their numbers, oldest first. -/
  entries : List (Nat × WithdrawRequest)
  /-- The last number that was given out. -/
  lastSeq : Nat
deriving DecidableEq

namespace RequestLog

/-- The log that no request was ever offered to. -/
def empty : RequestLog :=
  ⟨[], 0⟩

/-- The requests, oldest first. -/
def requests (log : RequestLog) : List WithdrawRequest :=
  log.entries.map Prod.snd

/-- Whether a request of the same key is there. -/
def knows (log : RequestLog) (r : WithdrawRequest) : Bool :=
  log.entries.any fun e => r.sameKey e.2

/-- The log after one more request: it takes the next number and is let in if its key is new. -/
def offer (log : RequestLog) (r : WithdrawRequest) : RequestLog :=
  ⟨if log.knows r then log.entries else log.entries ++ [(log.lastSeq + 1, r)], log.lastSeq + 1⟩

/-- Whether a batch can be taken: all its requests can be stored, and there are numbers for them. -/
def accepts (log : RequestLog) (batch : List WithdrawRequest) : Bool :=
  batch.all WithdrawRequest.isStorable && decide (log.lastSeq + batch.length ≤ Store.maxInteger)

/-- The log after a batch was offered to it. -/
def take (log : RequestLog) (batch : List WithdrawRequest) : RequestLog :=
  if log.accepts batch then batch.foldl offer log else log

/-- The log after some batches were offered to the empty one. -/
def after (batches : List (List WithdrawRequest)) : RequestLog :=
  batches.foldl take empty

/-! ### What holds of every log -/

/-- What holds of a log that began empty. -/
structure Sound (log : RequestLog) : Prop where
  /-- Later requests have greater numbers. -/
  ascending : log.entries.Pairwise fun d e => d.1 < e.1
  /-- No two requests have one key. -/
  distinct : log.entries.Pairwise fun d e => e.2.sameKey d.2 = false
  /-- No number is greater than the last one. -/
  seq_le : ∀ e ∈ log.entries, e.1 ≤ log.lastSeq
  /-- A number was given out for every request. -/
  length_le : log.entries.length ≤ log.lastSeq
  /-- An integer column can hold the last number. -/
  lastSeq_le : log.lastSeq ≤ Store.maxInteger

theorem empty_sound : empty.Sound :=
  ⟨List.Pairwise.nil, List.Pairwise.nil, by simp [empty], le_rfl, Nat.zero_le _⟩

theorem offer_sound {log : RequestLog} (h : log.Sound) (hlt : log.lastSeq < Store.maxInteger)
    (r : WithdrawRequest) : (log.offer r).Sound := by
  have hnext : ∀ e ∈ log.entries, e.1 < log.lastSeq + 1 :=
    fun e he => Nat.lt_succ_of_le (h.seq_le e he)
  unfold offer
  cases hknown : log.knows r with
  | true => exact ⟨h.ascending, h.distinct, fun e he => (hnext e he).le, h.length_le.step, hlt⟩
  | false =>
    have hnew : ∀ e ∈ log.entries, r.sameKey e.2 = false := by
      simpa [knows] using hknown
    refine ⟨?_, ?_, ?_, ?_, hlt⟩
    · refine List.pairwise_append.mpr ⟨h.ascending, List.pairwise_singleton _ _, ?_⟩
      intro e he d hd
      rw [List.mem_singleton.mp hd]
      exact hnext e he
    · refine List.pairwise_append.mpr ⟨h.distinct, List.pairwise_singleton _ _, ?_⟩
      intro e he d hd
      rw [List.mem_singleton.mp hd]
      exact hnew e he
    · intro e he
      rcases List.mem_append.mp he with he | he
      · exact (hnext e he).le
      · exact (congrArg Prod.fst (List.mem_singleton.mp he)).le
    · exact List.length_append.trans_le (Nat.succ_le_succ h.length_le)

theorem foldl_offer_sound {log : RequestLog} (h : log.Sound) (batch : List WithdrawRequest)
    (hroom : log.lastSeq + batch.length ≤ Store.maxInteger) : (batch.foldl offer log).Sound := by
  induction batch generalizing log with
  | nil => exact h
  | cons r batch ih =>
    rw [List.length_cons] at hroom
    refine ih (offer_sound h (by omega) r) ?_
    show log.lastSeq + 1 + batch.length ≤ _
    omega

theorem take_sound {log : RequestLog} (h : log.Sound) (batch : List WithdrawRequest) :
    (log.take batch).Sound := by
  unfold take
  split
  · rename_i haccepts
    simp only [accepts, Bool.and_eq_true, decide_eq_true_eq] at haccepts
    exact foldl_offer_sound h batch haccepts.2
  · exact h

theorem foldl_take_sound {log : RequestLog} (h : log.Sound)
    (batches : List (List WithdrawRequest)) : (batches.foldl take log).Sound := by
  induction batches generalizing log with
  | nil => exact h
  | cons batch batches ih => exact ih (take_sound h batch)

/-- **Invariant**: every log that is reached from the empty one is sound. -/
theorem after_sound (batches : List (List WithdrawRequest)) : (after batches).Sound :=
  foldl_take_sound empty_sound batches

theorem sameKey_self (r : WithdrawRequest) : r.sameKey r = true := by
  simp [WithdrawRequest.sameKey]

theorem requests_nodup {log : RequestLog} (h : log.Sound) : log.requests.Nodup := by
  rw [requests, List.Nodup, List.pairwise_map]
  refine h.distinct.imp fun {d e} hne heq => ?_
  rw [heq, sameKey_self] at hne
  exact Bool.noConfusion hne

/-! ### Growth -/

/-- A log has the entries of an earlier one and after them others with numbers given out since. -/
def Extends (later log : RequestLog) : Prop :=
  log.lastSeq ≤ later.lastSeq ∧
    ∃ added, later.entries = log.entries ++ added ∧ ∀ e ∈ added, log.lastSeq < e.1

theorem Extends.refl (log : RequestLog) : log.Extends log :=
  ⟨le_rfl, [], (List.append_nil _).symm, by simp⟩

theorem Extends.trans {log middle later : RequestLog} (h₂ : later.Extends middle)
    (h₁ : middle.Extends log) : later.Extends log := by
  obtain ⟨hle₁, added₁, heq₁, hnew₁⟩ := h₁
  obtain ⟨hle₂, added₂, heq₂, hnew₂⟩ := h₂
  refine ⟨hle₁.trans hle₂, added₁ ++ added₂, by rw [heq₂, heq₁, List.append_assoc], ?_⟩
  intro e he
  rcases List.mem_append.mp he with he | he
  · exact hnew₁ e he
  · exact lt_of_le_of_lt hle₁ (hnew₂ e he)

theorem offer_extends (log : RequestLog) (r : WithdrawRequest) : (log.offer r).Extends log := by
  refine ⟨Nat.le_succ _, ?_⟩
  unfold offer
  split
  · exact ⟨[], (List.append_nil _).symm, by simp⟩
  · exact ⟨[(log.lastSeq + 1, r)], rfl, by simp⟩

theorem foldl_offer_extends (batch : List WithdrawRequest) (log : RequestLog) :
    (batch.foldl offer log).Extends log := by
  induction batch generalizing log with
  | nil => exact .refl log
  | cons r batch ih => exact (ih (log.offer r)).trans (offer_extends log r)

theorem take_extends (log : RequestLog) (batch : List WithdrawRequest) :
    (log.take batch).Extends log := by
  unfold take
  split
  · exact foldl_offer_extends batch log
  · exact .refl log

theorem foldl_take_extends (batches : List (List WithdrawRequest)) (log : RequestLog) :
    (batches.foldl take log).Extends log := by
  induction batches generalizing log with
  | nil => exact .refl log
  | cons batch batches ih => exact (ih (log.take batch)).trans (take_extends log batch)

theorem Extends.length_le {later log : RequestLog} (h : later.Extends log) :
    log.entries.length ≤ later.entries.length := by
  obtain ⟨-, added, heq, -⟩ := h
  rw [heq, List.length_append]
  exact Nat.le_add_right _ _

/-! ### Logs and ledgers -/

/-- The ledger that holds the rows of the requests of a log. -/
def toLedger (log : RequestLog) : Store.Ledger :=
  ⟨log.entries.map fun e => Store.RequestRow.ofRequest e.1 e.2, log.lastSeq⟩

theorem any_sameKey_toLedger (log : RequestLog) (seq : Nat) (r : WithdrawRequest) :
    log.toLedger.rows.any (Store.RequestRow.ofRequest seq r).sameKey = log.knows r := by
  simp only [toLedger, List.any_map, Function.comp_def, Store.RequestRow.sameKey_ofRequest, knows]

/-- The rows that a request adds. -/
theorem length_entries_offer (log : RequestLog) (r : WithdrawRequest) :
    (log.offer r).entries.length = log.entries.length + if log.knows r then 0 else 1 := by
  unfold offer
  split <;> simp

end RequestLog

namespace Store

open RequestLog

theorem Ledger.offer_toLedger (log : RequestLog) (r : WithdrawRequest) :
    log.toLedger.offer r =
      if r.isStorable ∧ log.lastSeq < maxInteger then
        .ok ((log.offer r).toLedger, if log.knows r then 0 else 1)
      else .error .database := by
  unfold Ledger.offer
  rw [RequestRow.of?_eq]
  by_cases hfull : maxInteger ≤ log.lastSeq
  · have hno : ¬(r.isStorable = true ∧ log.lastSeq < maxInteger) :=
      fun h => absurd h.2 hfull.not_gt
    rw [if_pos (show maxInteger ≤ log.toLedger.lastSeq from hfull), if_neg hno]
  rw [if_neg (show ¬maxInteger ≤ log.toLedger.lastSeq from hfull)]
  have hroom : log.lastSeq < maxInteger := not_le.mp hfull
  cases r.isStorable with
  | false => simp
  | true =>
    simp only [hroom, if_true, and_self, any_sameKey_toLedger, RequestLog.offer]
    cases log.knows r with
    | true => rfl
    | false => simp [toLedger]

/-- **Simulation**: offering a batch to the ledger of a log. -/
theorem Ledger.offerAll_toLedger (log : RequestLog) (hle : log.lastSeq ≤ maxInteger)
    (batch : List WithdrawRequest) :
    log.toLedger.offerAll batch =
      if log.accepts batch then
        .ok ((batch.foldl RequestLog.offer log).toLedger,
          (batch.foldl RequestLog.offer log).entries.length - log.entries.length)
      else .error .database := by
  induction batch generalizing log with
  | nil => simp [Ledger.offerAll, accepts, hle]
  | cons r batch ih =>
    rw [Ledger.offerAll, Ledger.offer_toLedger]
    by_cases hr : r.isStorable ∧ log.lastSeq < maxInteger
    · rw [if_pos hr]
      show ((log.offer r).toLedger.offerAll batch >>= _) = _
      have haccepts : log.accepts (r :: batch) = (log.offer r).accepts batch := by
        rw [Bool.eq_iff_iff]
        simp only [accepts, List.all_cons, List.length_cons, hr.1, RequestLog.offer,
          Bool.true_and, Bool.and_eq_true, decide_eq_true_eq, Nat.add_assoc, Nat.add_comm 1]
      rw [ih (log.offer r) hr.2, haccepts, List.foldl_cons]
      split
      · have hgrown := (foldl_offer_extends batch (log.offer r)).length_le
        have hone := length_entries_offer log r
        have hadded : (if log.knows r then 0 else 1)
              + ((batch.foldl RequestLog.offer (log.offer r)).entries.length
                - (log.offer r).entries.length)
            = (batch.foldl RequestLog.offer (log.offer r)).entries.length
              - log.entries.length := by
          omega
        rw [← hadded]
        rfl
      · rfl
    · have hrefused : ¬log.accepts (r :: batch) := by
        intro h
        simp only [accepts, List.all_cons, List.length_cons, Bool.and_eq_true,
          decide_eq_true_eq] at h
        exact hr ⟨h.1.1, by omega⟩
      rw [if_neg hr, if_neg hrefused]
      rfl

/-- Offering a batch to a store that holds the ledger of a log. -/
theorem addRequests_eq (log : RequestLog) {s : Store} (hledger : s.ledger = some log.toLedger)
    (hwritable : s.isReadOnly = false) (hle : log.lastSeq ≤ maxInteger)
    (batch : List WithdrawRequest) :
    s.addRequests batch =
      if log.accepts batch then
        .ok ({ s with ledger := some (log.take batch).toLedger },
          (log.take batch).entries.length - log.entries.length)
      else .error .database := by
  unfold addRequests
  rw [hledger, insertable_some hwritable]
  show (log.toLedger.offerAll batch >>= _) = _
  rw [Ledger.offerAll_toLedger log hle, RequestLog.take]
  split <;> rfl

/-! ### Ingestion -/

/-- The store after some batches were offered to it, one after the other; one that fails leaves it
as it was. -/
def ingest : Store → List (List WithdrawRequest) → Store
  | s, [] => s
  | s, batch :: batches =>
    match s.addRequests batch with
    | .ok (s, _) => s.ingest batches
    | .error _ => s.ingest batches

/-- The fresh store but for the ledger of a log. -/
def ofLog (log : RequestLog) : Store :=
  { empty with ledger := some log.toLedger }

theorem ingest_ofLog {log : RequestLog} (h : log.Sound) (batches : List (List WithdrawRequest)) :
    (ofLog log).ingest batches = ofLog (batches.foldl RequestLog.take log) := by
  induction batches generalizing log with
  | nil => rfl
  | cons batch batches ih =>
    rw [ingest, addRequests_eq log rfl rfl h.lastSeq_le, List.foldl_cons,
      ← ih (take_sound h batch)]
    by_cases haccepts : log.accepts batch = true
    · rw [if_pos haccepts]
      rfl
    · rw [if_neg haccepts, RequestLog.take, if_neg haccepts]

/-- **Refinement**: a fresh store that some batches were offered to holds the log of them. -/
theorem ingest_empty (batches : List (List WithdrawRequest)) :
    empty.ingest batches = ofLog (RequestLog.after batches) :=
  ingest_ofLog empty_sound batches

theorem ledger_ingest (batches : List (List WithdrawRequest)) :
    (empty.ingest batches).ledger = some (RequestLog.after batches).toLedger :=
  congrArg ledger (ingest_empty batches)

end Store

end OffChain
