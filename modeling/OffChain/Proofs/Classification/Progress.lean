import OffChain.Proofs.Classification.Backfill

/-!
# Progress of backfilling

Calls of contracts that are not tracked stay pending, and they count towards the limit of a pass.
So passes get to a call of a tracked contract only if fewer calls of other contracts than the limit
stand ahead of it (`isInReach`).  That does not change when calls are classified, since these are
not among the ones that stand in the way.

* `backfill_reaches`: a pass classifies something exactly if some pending call is in reach, and
  passes that are repeated end with exactly the pending calls that are not.
* `backfill_starves`: two pending calls and a limit of one, where no pass ever does anything.
-/

namespace OffChain

open Classification Store

/-! ### Being in reach -/

/-- Whether a limit lets something through that so many stand ahead of. -/
def Store.admits (limit : UInt64) (ahead : ℕ) : Bool :=
  decide (ahead < limit.toNat) || decide (maxInteger < limit.toNat)

namespace Classification

/-- How many of some calls are of contracts that are not tracked and stand ahead of a transaction
in listings. -/
def ahead (s : Store) (pending : List Transaction) (trx : Transaction) : ℕ :=
  pending.countP fun other => !s.tracks other && decide (other.place < trx.place)

/-- Whether passes with a limit get to a transaction among some pending calls. -/
def isInReach (s : Store) (limit : UInt64) (pending : List Transaction) (trx : Transaction) :
    Bool :=
  s.tracks trx && admits limit (ahead s pending trx)

variable {s : Store} {limit : UInt64} {stakingContract : Option Address} {trx : Transaction}
  {trxs pending : List Transaction}

theorem admits_iff {ahead : ℕ} :
    admits limit ahead = true ↔ ahead < limit.toNat ∨ maxInteger < limit.toNat := by
  rw [admits, Bool.or_eq_true, decide_eq_true_eq, decide_eq_true_eq]

theorem isInReach_iff :
    isInReach s limit pending trx = true
      ↔ s.tracks trx = true ∧ admits limit (ahead s pending trx) = true := by
  rw [isInReach, Bool.and_eq_true]

theorem not_isInReach_of_untracked (h : s.tracks trx = false) :
    isInReach s limit pending trx = false := by
  rw [isInReach, h, Bool.false_and]

/-! ### What the limit cuts off -/

/-- What is listed up to a limit has fewer others ahead of it. -/
theorem admits_of_mem_limited (hsorted : pending.Pairwise fun a b => a.place ≤ b.place)
    (h : trx ∈ limited limit pending) :
    admits limit (pending.countP fun other => decide (other.place < trx.place)) = true := by
  rw [admits_iff]
  unfold limited at h
  split at h
  · left
    rw [← List.take_append_drop limit.toNat pending, List.pairwise_append] at hsorted
    obtain ⟨-, -, hcut⟩ := hsorted
    -- Nothing behind the cut is ahead, and the transaction is not ahead of itself.
    have hbehind : (pending.drop limit.toNat).countP (fun other => decide (other.place < trx.place))
        = 0 := by
      refine List.countP_eq_zero.mpr fun other hother => ?_
      rw [decide_eq_true_eq, not_lt]
      exact hcut trx h other hother
    have hfront : (pending.take limit.toNat).countP (fun other => decide (other.place < trx.place))
        < (pending.take limit.toNat).length := by
      refine List.countP_lt_length_iff.mpr ⟨trx, h, ?_⟩
      exact decide_eq_false (lt_irrefl _)
    rw [← List.take_append_drop limit.toNat pending, List.countP_append, hbehind]
    exact hfront.trans_le (List.length_take_le _ _)
  · rename_i hlimit
    exact Or.inr (not_le.mp hlimit)

/-- If something is not listed up to a limit, then what is listed is ahead of it and as many as the
limit. -/
theorem lt_of_not_mem_limited (hsorted : pending.Pairwise fun a b => a.place ≤ b.place)
    (hplace : ∀ other ∈ pending, other.place = trx.place → other = trx) (htrx : trx ∈ pending)
    (h : trx ∉ limited limit pending) :
    (∀ other ∈ limited limit pending, other.place < trx.place) ∧
      (limited limit pending).length = limit.toNat ∧ limit.toNat ≤ maxInteger := by
  unfold limited at h ⊢
  split at h
  · rename_i hlimit
    rw [if_pos hlimit]
    rw [← List.take_append_drop limit.toNat pending, List.pairwise_append] at hsorted
    obtain ⟨-, -, hcut⟩ := hsorted
    have hbehind : trx ∈ pending.drop limit.toNat := by
      rw [← List.take_append_drop limit.toNat pending, List.mem_append] at htrx
      exact htrx.resolve_left h
    refine ⟨?_, ?_, hlimit⟩
    · intro other hother
      refine lt_of_le_of_ne (hcut other hother trx hbehind) fun heq => ?_
      exact h (hplace other (List.mem_of_mem_take hother) heq ▸ hother)
    · have hdrop := List.length_pos_of_mem hbehind
      rw [List.length_drop] at hdrop
      rw [List.length_take]
      omega
  · exact absurd htrx h

/-! ### Single passes -/

/-- What a pass classifies was in reach. -/
theorem isInReach_of_classifies (h : classifies s (pendingUpTo limit trxs) trx = true) :
    isInReach s limit (pendingOf trxs) trx = true := by
  obtain ⟨hlisted, htracks⟩ := classifies_iff.mp h
  have hadmits := admits_of_mem_limited (pendingOf_pairwise trxs) hlisted
  have hfewer : ahead s (pendingOf trxs) trx
      ≤ (pendingOf trxs).countP fun other => decide (other.place < trx.place) := by
    refine List.countP_mono_left fun other _ hother => ?_
    rw [Bool.and_eq_true] at hother
    exact hother.2
  rw [admits_iff] at hadmits
  rw [isInReach_iff, admits_iff]
  exact ⟨htracks, hadmits.imp_left hfewer.trans_lt⟩

/-- **Progress**: if something is in reach, then a pass classifies something. -/
theorem exists_tracked_of_isInReach (h : s.Lists trxs) (htrx : trx ∈ pendingOf trxs)
    (hreach : isInReach s limit (pendingOf trxs) trx = true) :
    ∃ call ∈ pendingUpTo limit trxs, s.tracks call = true := by
  obtain ⟨htracks, hadmits⟩ := isInReach_iff.mp hreach
  by_cases hlisted : trx ∈ pendingUpTo limit trxs
  · exact ⟨trx, hlisted, htracks⟩
  have hplace : ∀ other ∈ pendingOf trxs, other.place = trx.place → other = trx := by
    intro other hother heq
    exact eq_of_place_eq h.nodup (mem_pendingOf.mp hother).1 (mem_pendingOf.mp htrx).1 heq
  obtain ⟨hahead, hlength, hlimit⟩ :=
    lt_of_not_mem_limited (pendingOf_pairwise trxs) hplace htrx hlisted
  -- Otherwise the calls that are listed are all in the way, and they are too many.
  by_contra hnone
  push Not at hnone
  have hway : ∀ other ∈ pendingUpTo limit trxs,
      (!s.tracks other && decide (other.place < trx.place)) = true := by
    intro other hother
    rw [Bool.eq_false_iff.mpr (hnone other hother), decide_eq_true (hahead other hother)]
    rfl
  have hmany : limit.toNat ≤ ahead s (pendingOf trxs) trx := by
    calc limit.toNat = (pendingUpTo limit trxs).length := hlength.symm
      _ = ahead s (pendingUpTo limit trxs) trx := (List.countP_eq_length.mpr hway).symm
      _ ≤ ahead s (pendingOf trxs) trx := (limited_sublist limit _).countP_le
  rw [admits_iff] at hadmits
  omega

/-- A pass classifies something exactly if something is in reach. -/
theorem classified_pos_iff (h : s.Lists trxs) :
    0 < (backfillStats s (pendingUpTo limit trxs)).classified
      ↔ ∃ trx ∈ pendingOf trxs, isInReach s limit (pendingOf trxs) trx = true := by
  rw [backfillStats, List.countP_pos_iff]
  constructor
  · rintro ⟨trx, hlisted, htracks⟩
    have hdone := classifies_iff.mpr ⟨hlisted, htracks⟩
    exact ⟨trx, mem_pendingOf_of_mem_pendingUpTo hlisted, isInReach_of_classifies hdone⟩
  · rintro ⟨trx, htrx, hreach⟩
    exact exists_tracked_of_isInReach h htrx hreach

/-! ### Passes over and over -/

/-- Some passes, one after the other. -/
def passes (limit : UInt64) (stakingContract : Option Address) :
    ℕ → Store → Except StoreError Store
  | 0, s => .ok s
  | n + 1, s => do
    let (next, _) ← backfill limit stakingContract s
    passes limit stakingContract n next

theorem passes_eq_self {stats : Stats} (h : backfill limit stakingContract s = .ok (s, stats))
    (n : ℕ) : passes limit stakingContract n s = .ok s := by
  induction n with
  | zero => rfl
  | succ n ih =>
    rw [passes, h]
    exact ih

/-- Whatever calls of tracked contracts go away, as much is in the way. -/
theorem isInReach_filter {isKept : Transaction → Bool}
    (hkept : ∀ other, s.tracks other = false → isKept other = true) (trx : Transaction) :
    isInReach s limit (pending.filter isKept) trx = isInReach s limit pending trx := by
  have hahead : ahead s (pending.filter isKept) trx = ahead s pending trx := by
    rw [ahead, ahead, List.countP_filter]
    refine List.countP_congr fun other _ => ?_
    cases htracks : s.tracks other with
    | true => rfl
    | false => rw [hkept other htracks, Bool.and_true]
  rw [isInReach, isInReach, hahead]

theorem isInReach_withTransactions (others : List Transaction) :
    isInReach (s.withTransactions others) limit pending = isInReach s limit pending := rfl

/-- **Step**: a pass changes nothing about what is out of reach. -/
theorem outOfReach_tableAfter (h : s.Lists trxs) :
    (pendingOf (tableAfter limit stakingContract s trxs)).filter
        (fun trx => !isInReach s limit (pendingOf (tableAfter limit stakingContract s trxs)) trx)
      = (pendingOf trxs).filter fun trx => !isInReach s limit (pendingOf trxs) trx := by
  have hkept : ∀ other, s.tracks other = false →
      (!classifies s (pendingUpTo limit trxs) other) = true := by
    intro other huntracked
    rw [not_classifies_of_untracked huntracked]
    rfl
  rw [pendingOf_tableAfter h, List.filter_filter]
  refine List.filter_congr fun trx _ => ?_
  rw [isInReach_filter hkept]
  cases hreach : isInReach s limit (pendingOf trxs) trx with
  | true => rfl
  | false =>
    have hnot : classifies s (pendingUpTo limit trxs) trx = false := by
      by_contra hdone
      rw [isInReach_of_classifies (Bool.not_eq_false _ ▸ hdone)] at hreach
      cases hreach
    rw [hnot]
    rfl

/-- A pass that classifies something leaves fewer calls pending. -/
theorem length_pendingOf_tableAfter_lt (h : s.Lists trxs) {call : Transaction}
    (hlisted : call ∈ pendingUpTo limit trxs) (htracks : s.tracks call = true) :
    (pendingOf (tableAfter limit stakingContract s trxs)).length < (pendingOf trxs).length := by
  rw [pendingOf_tableAfter h, List.length_filter_lt_length_iff_exists]
  refine ⟨call, mem_pendingOf_of_mem_pendingUpTo hlisted, ?_⟩
  rw [classifies_iff.mpr ⟨hlisted, htracks⟩]
  exact Bool.false_ne_true

/-- **Run**: passes that are repeated end where nothing is in reach. -/
theorem exists_passes (h : s.Lists trxs) (limit : UInt64) (stakingContract : Option Address) :
    ∃ n others, passes limit stakingContract n s = .ok (s.withTransactions others) ∧
      (s.withTransactions others).Lists others ∧
      pendingOf others
        = (pendingOf trxs).filter fun trx => !isInReach s limit (pendingOf trxs) trx := by
  -- The number of pending calls goes down until a pass classifies nothing.
  induction hcount : (pendingOf trxs).length using Nat.strong_induction_on generalizing s trxs with
  | _ count ih =>
  by_cases hreach : ∃ trx ∈ pendingOf trxs, isInReach s limit (pendingOf trxs) trx = true
  · obtain ⟨reachable, hpending, hreachable⟩ := hreach
    obtain ⟨call, hlisted, htracks⟩ := exists_tracked_of_isInReach h hpending hreachable
    have hfewer : (pendingOf (tableAfter limit stakingContract s trxs)).length < count :=
      hcount ▸ length_pendingOf_tableAfter_lt h hlisted htracks
    obtain ⟨n, others, hpasses, hlists, hothers⟩ := ih _ hfewer (lists_tableAfter h) rfl
    rw [isInReach_withTransactions, outOfReach_tableAfter h] at hothers
    refine ⟨n + 1, others, ?_, hlists, hothers⟩
    rw [passes, backfill_eq h]
    exact hpasses
  · refine ⟨0, trxs, ?_, h.withTransactions h.nodup, ?_⟩
    · rw [h.self_withTransactions]
      rfl
    · symm
      refine List.filter_eq_self.mpr fun trx htrx => ?_
      cases hcase : isInReach s limit (pendingOf trxs) trx with
      | true => exact absurd ⟨trx, htrx, hcase⟩ hreach
      | false => rfl

/-- Where nothing is in reach, passes do nothing. -/
theorem passes_of_outOfReach (h : s.Lists trxs)
    (hout : ∀ trx ∈ pendingOf trxs, isInReach s limit (pendingOf trxs) trx = false) (n : ℕ) :
    passes limit stakingContract n s = .ok s := by
  have huntracked : ∀ trx ∈ pendingUpTo limit trxs, s.tracks trx = false := by
    intro trx hlisted
    by_contra htracks
    have hdone := classifies_iff.mpr ⟨hlisted, Bool.not_eq_false _ ▸ htracks⟩
    have hreach := isInReach_of_classifies hdone
    rw [hout trx (mem_pendingOf_of_mem_pendingUpTo hlisted)] at hreach
    cases hreach
  exact passes_eq_self (backfill_of_untracked h stakingContract huntracked).1 n

/-- If there are fewer calls of other contracts than the limit, every call of a tracked contract is
in reach. -/
theorem isInReach_of_few (hfew : (pending.countP fun other => !s.tracks other) < limit.toNat)
    (htracks : s.tracks trx = true) : isInReach s limit pending trx = true := by
  have hahead : ahead s pending trx ≤ pending.countP fun other => !s.tracks other := by
    refine List.countP_mono_left fun other _ hother => ?_
    rw [Bool.and_eq_true] at hother
    exact hother.1
  rw [isInReach_iff, admits_iff]
  exact ⟨htracks, Or.inl (hahead.trans_lt hfew)⟩

/-- **Progress of backfilling**: whatever was done to a fresh store, a pass classifies something
exactly if a pending call is in reach, and repeated passes end with the pending calls that are
not. -/
theorem backfill_reaches (steps : List Step) (limit : UInt64) (stakingContract : Option Address) :
    ∃ all next stats n final,
      (reached steps).pendingCalls unlimited = .ok all ∧
      (∀ trx, trx ∈ all ↔ (reached steps).findTransaction trx.hash = .ok (some trx) ∧
        trx.canBeCall = true ∧ trx.targetCall = none) ∧
      backfill limit stakingContract (reached steps) = .ok (next, stats) ∧
      (0 < stats.classified ↔ ∃ trx ∈ all, isInReach (reached steps) limit all trx = true) ∧
      passes limit stakingContract n (reached steps) = .ok final ∧
      final.pendingCalls unlimited
        = .ok (all.filter fun trx => !isInReach (reached steps) limit all trx) ∧
      (∀ more, passes limit stakingContract more final = .ok final) ∧
      ((all.countP fun trx => !(reached steps).tracks trx) < limit.toNat →
        ∀ trx, (reached steps).tracks trx = true →
          isInReach (reached steps) limit all trx = true) := by
  obtain ⟨r, hr⟩ := holds_reached steps
  obtain ⟨trxs, hrows, htable⟩ := hr.transactions
  have hlists : (reached steps).Lists trxs := ⟨hr.isReadOnly, hrows, htable.nodup⟩
  have hpending : ∀ trx, trx ∈ pendingOf trxs ↔
      (reached steps).findTransaction trx.hash = .ok (some trx) ∧
        trx.canBeCall = true ∧ trx.targetCall = none := by
    intro trx
    rw [mem_pendingOf, Transaction.isPending_iff, hr.findTransaction_eq, Except.ok.injEq,
      htable.lookup_iff, and_iff_left rfl]
  obtain ⟨n, others, hpasses, hfinal, hothers⟩ := exists_passes hlists limit stakingContract
  have hout : ∀ trx ∈ pendingOf others,
      isInReach (reached steps) limit (pendingOf others) trx = false := by
    intro trx htrx
    have hkept : ∀ other, (reached steps).tracks other = false →
        (!isInReach (reached steps) limit (pendingOf trxs) other) = true := by
      intro other huntracked
      rw [not_isInReach_of_untracked huntracked]
      rfl
    rw [hothers, List.mem_filter, Bool.not_eq_true'] at htrx
    rw [hothers, isInReach_filter hkept]
    exact htrx.2
  refine ⟨pendingOf trxs, _, _, n, _, ?_, hpending, backfill_eq hlists,
    classified_pos_iff hlists, hpasses, ?_, passes_of_outOfReach hfinal hout,
    fun hfew trx htracks => isInReach_of_few hfew htracks⟩
  · rw [pendingCalls_eq hrows, pendingUpTo_unlimited]
  · rw [pendingCalls_eq rfl, pendingUpTo_unlimited, hothers]

/-! ### Starvation -/

/-- A call in a block, whose hash and contract consist of one byte over and over. -/
def sampleCall (block : UInt64) (byte : UInt8) : Transaction :=
  { zeroCall with
    hash := ⟨List.replicate 32 byte, List.length_replicate⟩
    blockNumber := some block
    recipient := some ⟨List.replicate 20 byte, List.length_replicate⟩ }

/-- Two calls are inserted; the contract of the later one is known. -/
def starvingSteps : List Step :=
  [.perform (.addTransactions [sampleCall 1 1, sampleCall 2 2]),
    .perform (.keepContract
      ⟨⟨List.replicate 20 2, List.length_replicate⟩, "ERC20", none⟩)]

theorem lists_starvingSteps :
    (reached starvingSteps).Lists [sampleCall 1 1, sampleCall 2 2] where
  isReadOnly := by decide +kernel
  transactions := by decide +kernel
  nodup := by decide +kernel

theorem pendingOf_sampleCalls :
    pendingOf [sampleCall 1 1, sampleCall 2 2] = [sampleCall 1 1, sampleCall 2 2] := by
  have hpending : [sampleCall 1 1, sampleCall 2 2].filter Transaction.isPending
      = [sampleCall 1 1, sampleCall 2 2] := by decide +kernel
  rw [pendingOf, hpending]
  refine List.mergeSort_of_pairwise ?_
  decide +kernel

/-- **Starvation**: the call of a contract that is not tracked fills every pass, and the other one
is never classified. -/
theorem backfill_starves :
    (reached starvingSteps).findTransaction (sampleCall 2 2).hash
        = .ok (some (sampleCall 2 2)) ∧
      (sampleCall 2 2).canBeCall = true ∧ (sampleCall 2 2).targetCall = none ∧
      (reached starvingSteps).tracks (sampleCall 2 2) = true ∧
      backfill 1 none (reached starvingSteps) = .ok (reached starvingSteps, ⟨1, 0, 1, 0⟩) ∧
      ∀ n, passes 1 none n (reached starvingSteps) = .ok (reached starvingSteps) := by
  have hlisted : pendingUpTo 1 [sampleCall 1 1, sampleCall 2 2] = [sampleCall 1 1] := by
    rw [pendingUpTo, pendingOf_sampleCalls]
    decide +kernel
  have huntracked : ∀ trx ∈ pendingUpTo 1 [sampleCall 1 1, sampleCall 2 2],
      (reached starvingSteps).tracks trx = false := by
    intro trx htrx
    rw [hlisted, List.mem_singleton] at htrx
    rw [htrx]
    decide +kernel
  obtain ⟨hpass, -⟩ := backfill_of_untracked lists_starvingSteps none huntracked
  have hstats : backfillStats (reached starvingSteps) [sampleCall 1 1] = ⟨1, 0, 1, 0⟩ := by
    decide +kernel
  rw [hlisted, hstats] at hpass
  exact ⟨by decide +kernel, by decide +kernel, rfl, by decide +kernel, hpass,
    passes_eq_self hpass⟩

end Classification

end OffChain
