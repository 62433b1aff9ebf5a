import OffChain.CommandLine.Run
import OffChain.Proofs.Classification.Settling

/-!
# Backfilling

A pass lists the pending calls up to a limit and lets a worker examine them.  It settles the calls
of tracked contracts among them, each in its row, and does nothing else (`backfill_eq`).

* `Step`, `reached`: what is done to a store, earlier passes included, and the stores that are
  reached (`holds_reached`).
* `CompletePass`: what a pass over one of these stores comes to, told by its counters, by the
  pending calls before and after it, by the row counts and by the rows
  (`backfill_classifies_what_it_can`).
-/

namespace OffChain

namespace Classification

open Store

/-! ### Passes -/

/-- The archive that a pass works on. -/
def backfillArchive (stakingContract : Option Address) (s : Store) : Archive :=
  .ofStore
    { Config.standard with
      stakingContract := stakingContract.getD Config.standard.stakingContract }
    s InfoSource.offline

/-- A pass: the worker takes the pending calls up to a limit.  It gives the store that is left and
the counters. -/
def backfill (limit : UInt64) (stakingContract : Option Address) (s : Store) :
    Except StoreError (Store × Stats) := do
  let pending ← s.pendingCalls limit
  let left := (Worker.run (backfillArchive stakingContract s) pending none).value
  .ok (left.1.store, left.2)

/-- The command that classifies makes a pass, and shows the counters if there was anything to do. -/
theorem classify_value {limit : UInt64} {stakingContract : Option Address} {s next : Store}
    {pending : List Transaction} {stats : Stats} (hpending : s.pendingCalls limit = .ok pending)
    (hpass : backfill limit stakingContract s = .ok (next, stats)) (path : String) :
    (CommandLine.classify path limit stakingContract s).value
      = (next, .ok (if pending.isEmpty then "" else Report.ofStats stats)) := by
  unfold backfill at hpass
  rw [hpending] at hpass
  obtain ⟨rfl, rfl⟩ := Prod.mk.inj (Except.ok.inj hpass)
  unfold CommandLine.classify
  rw [hpending]
  cases pending with
  | nil => rfl
  | cons trx rest => rfl

/-- The counters of a pass over some calls. -/
def backfillStats (s : Store) (listed : List Transaction) : Stats :=
  { received := listed.length
    classified := listed.countP s.tracks
    skipped := listed.countP fun trx => !s.tracks trx
    failed := 0 }

/-- Whether a pass over some listed calls classifies a transaction. -/
def classifies (s : Store) (listed : List Transaction) (trx : Transaction) : Bool :=
  decide (trx ∈ listed) && s.tracks trx

/-- A transaction of the table as a pass over some listed calls leaves it. -/
def afterPass (stakingContract : Option Address) (s : Store) (listed : List Transaction)
    (trx : Transaction) : Transaction :=
  if classifies s listed trx then settled (backfillArchive stakingContract s) trx else trx

/-- The table as a pass leaves it. -/
def tableAfter (limit : UInt64) (stakingContract : Option Address) (s : Store)
    (trxs : List Transaction) : List Transaction :=
  trxs.map (afterPass stakingContract s (pendingUpTo limit trxs))

variable {s : Store} {limit : UInt64} {stakingContract : Option Address} {trx : Transaction}
  {trxs listed : List Transaction}

theorem classifies_iff : classifies s listed trx = true ↔ trx ∈ listed ∧ s.tracks trx = true := by
  rw [classifies, Bool.and_eq_true, decide_eq_true_eq]

theorem not_classifies_of_untracked (h : s.tracks trx = false) :
    classifies s listed trx = false := by
  rw [classifies, h, Bool.and_false]

theorem afterPass_of_not (h : classifies s listed trx = false) :
    afterPass stakingContract s listed trx = trx := by
  rw [afterPass, h]
  exact if_neg Bool.false_ne_true

theorem hash_afterPass (trx : Transaction) :
    (afterPass stakingContract s listed trx).hash = trx.hash := by
  unfold afterPass
  split
  · exact hash_settled _ trx
  · rfl

/-- What a pass leaves is a table again. -/
theorem lists_tableAfter (h : s.Lists trxs) :
    (s.withTransactions (tableAfter limit stakingContract s trxs)).Lists
      (tableAfter limit stakingContract s trxs) := by
  have hsame : Transaction.hash ∘ afterPass stakingContract s (pendingUpTo limit trxs)
      = Transaction.hash := funext hash_afterPass
  refine h.withTransactions ?_
  rw [tableAfter, List.map_map, hsame]
  exact h.nodup

/-- What a pass makes of a call that is pending. -/
theorem examine_backfill (h : s.Lists trxs) (stakingContract : Option Address)
    (htrx : trx ∈ pendingOf trxs) :
    (examine (backfillArchive stakingContract s) trx).value.2
      = if s.tracks trx then .written (settled (backfillArchive stakingContract s) trx)
        else .untracked := by
  obtain ⟨hstored, hpending⟩ := mem_pendingOf.mp htrx
  exact examine_of_lists h hstored (Transaction.isPending_iff.mp hpending).1

theorem ofOutcomes_examine (h : s.Lists trxs) (hlisted : ∀ trx ∈ listed, trx ∈ pendingOf trxs) :
    Stats.ofOutcomes (listed.map fun trx =>
        (examine (backfillArchive stakingContract s) trx).value.2)
      = backfillStats s listed := by
  have houtcome : ∀ trx ∈ listed, (examine (backfillArchive stakingContract s) trx).value.2
      = if s.tracks trx then .written (settled (backfillArchive stakingContract s) trx)
        else .untracked :=
    fun trx htrx => examine_backfill h stakingContract (hlisted trx htrx)
  rw [List.map_congr_left houtcome]
  unfold Stats.ofOutcomes backfillStats
  simp only [List.length_map, List.countP_map, Stats.mk.injEq, true_and]
  refine ⟨?_, ?_, ?_⟩
  · refine List.countP_congr fun trx _ => ?_
    cases htracks : s.tracks trx <;> simp [htracks, Outcome.isWritten]
  · refine List.countP_congr fun trx _ => ?_
    cases htracks : s.tracks trx <;> simp [htracks, Outcome.isSkipped]
  · refine List.countP_eq_zero.mpr fun trx _ => ?_
    cases htracks : s.tracks trx <;> simp [htracks, Outcome.isUnwritten]

/-- Examining settles what is listed; it makes nothing of what is not tracked. -/
theorem settled_of_untracked (h : s.Lists trxs) (htrx : trx ∈ pendingOf trxs)
    (htracks : s.tracks trx = false) : settled (backfillArchive stakingContract s) trx = trx := by
  have houtcome := examine_backfill h stakingContract htrx
  rw [htracks] at houtcome
  exact congrArg (Outcome.settle trx) houtcome

/-- **Pass**: the calls of tracked contracts among those that are listed are settled, and nothing
else happens. -/
theorem backfill_eq (h : s.Lists trxs) :
    backfill limit stakingContract s = .ok
      (s.withTransactions (tableAfter limit stakingContract s trxs),
        backfillStats s (pendingUpTo limit trxs)) := by
  have hlisted : ∀ trx ∈ pendingUpTo limit trxs, trx ∈ pendingOf trxs :=
    fun trx htrx => mem_pendingOf_of_mem_pendingUpTo htrx
  have hstored : ∀ trx ∈ pendingUpTo limit trxs, trx ∈ trxs :=
    fun trx htrx => (mem_pendingOf.mp (hlisted trx htrx)).1
  have hsettled : ∀ trx ∈ trxs, (if trx ∈ pendingUpTo limit trxs then
        settled (backfillArchive stakingContract s) trx else trx)
      = afterPass stakingContract s (pendingUpTo limit trxs) trx := by
    intro trx _
    unfold afterPass classifies
    by_cases hmem : trx ∈ pendingUpTo limit trxs
    · cases htracks : s.tracks trx with
      | true => simp [hmem]
      | false => simp [settled_of_untracked h (hlisted trx hmem) htracks]
    · simp [hmem]
  have hlists : (backfillArchive stakingContract s).store.Lists trxs := h
  unfold backfill
  rw [pendingCalls_eq h.transactions]
  show Except.ok ((Worker.run (backfillArchive stakingContract s) _ none).value.1.store,
    (Worker.run (backfillArchive stakingContract s) _ none).value.2) = _
  rw [Worker.run_value, examineAll_of_lists hlists hstored, examineAll_snd,
    ofOutcomes_examine h hlisted, List.map_congr_left hsettled]
  rfl

/-- A pass that meets no call of a tracked contract does nothing. -/
theorem backfill_of_untracked (h : s.Lists trxs) (stakingContract : Option Address)
    (huntracked : ∀ trx ∈ pendingUpTo limit trxs, s.tracks trx = false) :
    backfill limit stakingContract s = .ok (s, backfillStats s (pendingUpTo limit trxs)) ∧
      (backfillStats s (pendingUpTo limit trxs)).classified = 0 := by
  have hnone : ∀ trx, classifies s (pendingUpTo limit trxs) trx = false := by
    intro trx
    by_contra hdone
    obtain ⟨hlisted, htracks⟩ := classifies_iff.mp (Bool.not_eq_false _ ▸ hdone)
    rw [huntracked trx hlisted] at htracks
    cases htracks
  have hsame : tableAfter limit stakingContract s trxs = trxs := by
    rw [tableAfter, List.map_congr_left fun trx _ => afterPass_of_not (hnone trx), List.map_id']
  constructor
  · rw [backfill_eq h, hsame, h.self_withTransactions]
  · refine List.countP_eq_zero.mpr fun trx htrx => ?_
    rw [huntracked trx htrx]
    exact Bool.false_ne_true

/-! ### Stores that are reached -/

/-- What is done to a store. -/
inductive Step where
  /-- An operation is performed. -/
  | perform (op : Operation)
  /-- A pass is made. -/
  | backfill (limit : UInt64) (stakingContract : Option Address)

/-- What a step leads to. -/
def Step.run (s : Store) : Step → Except StoreError Store
  | .perform op => (s.perform op).map Prod.fst
  | .backfill limit stakingContract =>
    (Classification.backfill limit stakingContract s).map Prod.fst

/-- The store after a step; one that fails leaves it as it is. -/
def Step.apply (s : Store) (step : Step) : Store :=
  (step.run s).toOption.getD s

/-- The store that some steps make of a fresh one, first one first. -/
def reached (steps : List Step) : Store :=
  steps.foldl Step.apply .empty

/-- **Step**: what follows a store that holds some records holds some. -/
theorem Step.holds_apply {r : Records} (h : s.Holds r) (step : Step) :
    ∃ r', (step.apply s).Holds r' := by
  cases step with
  | perform op =>
    have hagrees := perform_agrees h op
    rw [Step.apply, Step.run]
    cases hs : s.perform op with
    | error e => exact ⟨r, h⟩
    | ok result =>
      rw [hs] at hagrees
      cases hr : r.perform op with
      | error e =>
        rw [hr] at hagrees
        exact hagrees.elim
      | ok meant =>
        rw [hr] at hagrees
        exact ⟨meant.1, hagrees.2⟩
  | backfill limit stakingContract =>
    obtain ⟨trxs, hlists⟩ := h.exists_lists
    rw [Step.apply, Step.run, backfill_eq hlists]
    exact h.exists_withTransactions (lists_tableAfter hlists).nodup

/-- **Run**: every store that is reached holds some records. -/
theorem holds_reached (steps : List Step) : ∃ r, (reached steps).Holds r := by
  induction steps using List.reverseRecOn with
  | nil => exact ⟨Records.empty, holds_empty⟩
  | append_singleton steps step ih =>
    obtain ⟨r, hr⟩ := ih
    rw [reached, List.foldl_append]
    exact step.holds_apply hr

/-! ### What is left pending -/

/-- What a pass classifies was found out. -/
theorem finds_afterPass (h : s.Lists trxs)
    (hdone : classifies s (pendingUpTo limit trxs) trx = true) :
    Finds (backfillArchive stakingContract s) trx
      (afterPass stakingContract s (pendingUpTo limit trxs) trx) := by
  rw [afterPass, if_pos hdone]
  obtain ⟨hlisted, htracks⟩ := classifies_iff.mp hdone
  have houtcome := examine_backfill h stakingContract (mem_pendingOf_of_mem_pendingUpTo hlisted)
  exact finds_of_written (houtcome.trans (if_pos htracks))

theorem Finds.targetCall {archive : Archive} {copy : Transaction} (h : Finds archive trx copy) :
    copy.targetCall.isSome = true := by
  obtain ⟨callee, contract, -, -, -, rfl⟩ := h
  rfl

/-- What is pending after a pass: what was and has not been classified. -/
theorem pendingOf_tableAfter (h : s.Lists trxs) :
    pendingOf (tableAfter limit stakingContract s trxs)
      = (pendingOf trxs).filter fun trx => !classifies s (pendingUpTo limit trxs) trx := by
  refine pendingOf_map h.nodup hash_afterPass ?_ ?_
  · intro trx hdone
    have hfound : Finds (backfillArchive stakingContract s) trx
        (afterPass stakingContract s (pendingUpTo limit trxs) trx) := finds_afterPass h hdone
    rw [Transaction.isPending, Option.isNone_eq_false_iff.mpr hfound.targetCall, Bool.and_false]
  · exact fun trx hother => afterPass_of_not hother

/-! ### Counts -/

/-- Counting after a change that adds a property to some members that did not have it. -/
theorem countP_map_of_gain {α : Type} {p isDone : α → Bool} {f : α → α} {l : List α}
    (hgain : ∀ a ∈ l, isDone a = true → p a = false ∧ p (f a) = true)
    (hother : ∀ a ∈ l, isDone a = false → f a = a) :
    (l.map f).countP p = l.countP p + l.countP isDone := by
  induction l with
  | nil => rfl
  | cons a l ih =>
    have hrest := ih (fun b hb => hgain b (List.mem_cons_of_mem _ hb))
      (fun b hb => hother b (List.mem_cons_of_mem _ hb))
    rw [List.map_cons, List.countP_cons, List.countP_cons, List.countP_cons, hrest]
    cases hdone : isDone a with
    | true =>
      obtain ⟨hbefore, hafter⟩ := hgain a List.mem_cons_self hdone
      simp only [hbefore, hafter, if_true, Bool.false_eq_true, if_false]
      omega
    | false =>
      simp only [hother a List.mem_cons_self hdone, Bool.false_eq_true, if_false]
      omega

/-- As many transactions are classified as calls of tracked contracts are listed. -/
theorem countP_classifies (h : s.Lists trxs) :
    trxs.countP (classifies s (pendingUpTo limit trxs))
      = (pendingUpTo limit trxs).countP s.tracks := by
  have hstored : ∀ trx ∈ pendingUpTo limit trxs, trx ∈ trxs :=
    fun trx htrx => (mem_pendingOf.mp (mem_pendingOf_of_mem_pendingUpTo htrx)).1
  have hperm : (trxs.filter fun trx => decide (trx ∈ pendingUpTo limit trxs)).Perm
      (pendingUpTo limit trxs) := by
    refine (List.perm_ext_iff_of_nodup ?_ (pendingUpTo_nodup h.nodup)).mpr ?_
    · exact (List.Nodup.of_map _ h.nodup).filter _
    · intro trx
      rw [List.mem_filter, decide_eq_true_eq, and_iff_right_iff_imp]
      exact hstored trx
  rw [← hperm.countP_eq, List.countP_filter]
  exact List.countP_congr fun trx _ => by rw [classifies, Bool.and_comm]

theorem countP_tableAfter (h : s.Lists trxs) :
    (tableAfter limit stakingContract s trxs).countP (fun trx => trx.targetCall.isSome)
      = trxs.countP (fun trx => trx.targetCall.isSome)
        + (pendingUpTo limit trxs).countP s.tracks := by
  rw [← countP_classifies h]
  refine countP_map_of_gain ?_ ?_
  · intro trx _ hdone
    have hpending := mem_pendingOf_of_mem_pendingUpTo (classifies_iff.mp hdone).1
    have hbefore := (Transaction.isPending_iff.mp (mem_pendingOf.mp hpending).2).2
    refine ⟨?_, (finds_afterPass h hdone).targetCall⟩
    rw [hbefore]
    rfl
  · exact fun trx _ hother => afterPass_of_not hother

/-- As many more transactions are classified as calls of tracked contracts are listed. -/
theorem rowCounts_tableAfter {r : Records} (hr : s.Holds r) (h : s.Lists trxs) :
    ∃ counts, s.rowCounts = .ok counts ∧
      (s.withTransactions (tableAfter limit stakingContract s trxs)).rowCounts
        = .ok { counts with
            classified := counts.classified + (pendingUpTo limit trxs).countP s.tracks } := by
  obtain ⟨accounts, contracts, requests, hcounts⟩ := hr.rowCounts_withTransactions
  have hbefore := hcounts trxs
  rw [h.self_withTransactions] at hbefore
  refine ⟨_, hbefore, ?_⟩
  rw [hcounts, countP_tableAfter h, tableAfter, List.length_map]

/-! ### Complete passes -/

/-- What a complete pass over a store comes to. -/
structure CompletePass (s : Store) (limit : UInt64) (stakingContract : Option Address)
    (pending all : List Transaction) (next : Store) (stats : Stats) : Prop where
  /-- The calls that are listed up to the limit. -/
  listed : s.pendingCalls limit = .ok pending
  /-- The calls that are listed without a limit. -/
  listedAll : s.pendingCalls unlimited = .ok all
  /-- The pass succeeds. -/
  pass : backfill limit stakingContract s = .ok (next, stats)
  /-- It is that of the command. -/
  command : ∀ path, (CommandLine.classify path limit stakingContract s).value
    = (next, .ok (if pending.isEmpty then "" else Report.ofStats stats))
  /-- All listed calls are taken; those of tracked contracts are classified, the others are passed
  over, and none fails. -/
  counters : stats = ⟨pending.length, pending.countP s.tracks,
    pending.countP fun trx => !s.tracks trx, 0⟩
  /-- What was classified is not listed any more, and the rest is in its order. -/
  left : next.pendingCalls unlimited = .ok (all.filter fun trx => !classifies s pending trx)
  /-- As many more transactions are classified as are said to be; no other count changes. -/
  counts : ∃ counts, s.rowCounts = .ok counts ∧
    next.rowCounts = .ok { counts with classified := counts.classified + stats.classified }
  /-- Only rows that are classified change, and they get what is found out about their call. -/
  rows : ∃ trxs : List Transaction,
    s.transactions = some (trxs.map TransactionRow.ofTransaction) ∧
    next = s.withTransactions (trxs.map (afterPass stakingContract s pending)) ∧
    ∀ trx ∈ trxs, if classifies s pending trx then
        Finds (backfillArchive stakingContract s) trx (afterPass stakingContract s pending trx)
      else afterPass stakingContract s pending trx = trx

theorem completePass_of_holds {r : Records} (hr : s.Holds r) (h : s.Lists trxs) (limit : UInt64)
    (stakingContract : Option Address) :
    CompletePass s limit stakingContract (pendingUpTo limit trxs) (pendingOf trxs)
      (s.withTransactions (tableAfter limit stakingContract s trxs))
      (backfillStats s (pendingUpTo limit trxs)) where
  listed := pendingCalls_eq h.transactions limit
  listedAll := by rw [pendingCalls_eq h.transactions, pendingUpTo_unlimited]
  pass := backfill_eq h
  command := classify_value (pendingCalls_eq h.transactions limit) (backfill_eq h)
  counters := rfl
  left := by rw [pendingCalls_eq rfl, pendingUpTo_unlimited, pendingOf_tableAfter h]
  counts := rowCounts_tableAfter hr h
  rows := by
    refine ⟨trxs, h.transactions, rfl, fun trx _ => ?_⟩
    cases hdone : classifies s (pendingUpTo limit trxs) trx with
    | true => exact finds_afterPass h hdone
    | false => exact afterPass_of_not hdone

/-- After a pass without a limit there is nothing left to do. -/
theorem backfill_unlimited_again (h : s.Lists trxs) (stakingContract other : Option Address) :
    ∃ next stats again, backfill unlimited stakingContract s = .ok (next, stats) ∧
      backfill unlimited other next = .ok (next, again) ∧ again.classified = 0 := by
  have huntracked : ∀ trx ∈ pendingUpTo unlimited (tableAfter unlimited stakingContract s trxs),
      s.tracks trx = false := by
    intro trx htrx
    rw [pendingUpTo_unlimited, pendingOf_tableAfter h, pendingUpTo_unlimited, List.mem_filter,
      Bool.not_eq_true', classifies, decide_eq_true htrx.1] at htrx
    exact htrx.2
  obtain ⟨hagain, hzero⟩ := backfill_of_untracked (lists_tableAfter h) other huntracked
  exact ⟨_, _, _, backfill_eq h, hagain, hzero⟩

/-- **Backfilling classifies what it can**: whatever was done to a fresh store, earlier passes
included, a pass classifies exactly the calls of tracked contracts among those that it lists; a
second one after a pass without a limit does nothing. -/
theorem backfill_classifies_what_it_can (steps : List Step) (limit : UInt64)
    (stakingContract other : Option Address) :
    (∃ pending all next stats,
        CompletePass (reached steps) limit stakingContract pending all next stats) ∧
      ∃ next stats again,
        backfill unlimited stakingContract (reached steps) = .ok (next, stats) ∧
          backfill unlimited other next = .ok (next, again) ∧ again.classified = 0 := by
  obtain ⟨r, hr⟩ := holds_reached steps
  obtain ⟨trxs, hlists⟩ := hr.exists_lists
  exact ⟨⟨_, _, _, _, completePass_of_holds hr hlists limit stakingContract⟩,
    backfill_unlimited_again hlists stakingContract other⟩

end Classification

end OffChain
