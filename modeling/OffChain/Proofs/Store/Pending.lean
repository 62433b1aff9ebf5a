import Mathlib.Data.List.TakeWhile
import Mathlib.Data.Prod.Lex
import Mathlib.Data.String.Basic
import Mathlib.Order.WithBot
import OffChain.Proofs.Store.Refinement

/-!
# The listing of pending calls

The store lists the transactions that look like calls and have not been classified.  Over the rows
of a table of transactions the two tests of a row, the length of a text and an empty column, are
those of the transaction, and the order of rows is that of the places of transactions: by block,
those without one first, and then by the text of the hash.

* `Store.pendingCalls_eq`: the listing of such a table is `pendingOf` of its transactions, cut off
  at the limit (`pendingUpTo`).  It never fails.
* `pendingOf_map`: if some transactions of the table are classified, the listing is that of before
  without them, in the order of before.
-/

namespace OffChain

/-! ### Transactions in the order of listings -/

namespace Transaction

/-- Whether a transaction looks like a call that has not been classified. -/
def isPending (trx : Transaction) : Bool :=
  trx.canBeCall && trx.targetCall.isNone

theorem isPending_iff {trx : Transaction} :
    trx.isPending = true ↔ trx.canBeCall = true ∧ trx.targetCall = none := by
  rw [isPending, Bool.and_eq_true, Option.isNone_iff_eq_none]

/-- Where a block number stands among others: behind its absence and all smaller ones. -/
def blockRank (block : Option UInt64) : WithBot ℕ :=
  block.map UInt64.toNat

/-- Where a transaction stands in listings. -/
def place (trx : Transaction) : WithBot ℕ ×ₗ String :=
  toLex (blockRank trx.blockNumber, trx.hash.toText)

theorem hash_eq_of_place_eq {a b : Transaction} (h : a.place = b.place) : a.hash = b.hash :=
  FixedBytes.toText_inj.mp (congrArg (fun p => (ofLex p).2) h)

end Transaction

/-- The pending ones of some transactions, in the order of listings. -/
def pendingOf (trxs : List Transaction) : List Transaction :=
  (trxs.filter Transaction.isPending).mergeSort fun a b => decide (a.place ≤ b.place)

theorem mem_pendingOf {trxs : List Transaction} {trx : Transaction} :
    trx ∈ pendingOf trxs ↔ trx ∈ trxs ∧ trx.isPending = true := by
  rw [pendingOf, List.mem_mergeSort, List.mem_filter]

theorem pendingOf_pairwise (trxs : List Transaction) :
    (pendingOf trxs).Pairwise fun a b => a.place ≤ b.place := by
  have htrans : ∀ a b c : Transaction, decide (a.place ≤ b.place) = true →
      decide (b.place ≤ c.place) = true → decide (a.place ≤ c.place) = true := by
    intro a b c hab hbc
    rw [decide_eq_true_eq] at hab hbc ⊢
    exact hab.trans hbc
  have htotal : ∀ a b : Transaction,
      (decide (a.place ≤ b.place) || decide (b.place ≤ a.place)) = true := by
    intro a b
    rw [Bool.or_eq_true, decide_eq_true_eq, decide_eq_true_eq]
    exact le_total a.place b.place
  have hsorted := List.pairwise_mergeSort htrans htotal (trxs.filter Transaction.isPending)
  exact hsorted.imp of_decide_eq_true

theorem pendingOf_nodup {trxs : List Transaction} (h : (trxs.map Transaction.hash).Nodup) :
    (pendingOf trxs).Nodup :=
  (List.mergeSort_perm _ _).nodup_iff.mpr ((List.Nodup.of_map _ h).filter _)

/-- Two transactions of a table that stand in one place are one. -/
theorem eq_of_place_eq {trxs : List Transaction} (h : (trxs.map Transaction.hash).Nodup)
    {a b : Transaction} (ha : a ∈ trxs) (hb : b ∈ trxs) (hplace : a.place = b.place) : a = b :=
  List.inj_on_of_nodup_map h ha hb (Transaction.hash_eq_of_place_eq hplace)

/-- A listing is the only list of its transactions that is in the order of listings. -/
theorem eq_pendingOf {trxs listed : List Transaction} (h : (trxs.map Transaction.hash).Nodup)
    (hperm : listed.Perm (trxs.filter Transaction.isPending))
    (hsorted : listed.Pairwise fun a b => a.place ≤ b.place) : listed = pendingOf trxs := by
  refine List.Perm.eq_of_pairwise (fun a b ha hb hab hba => ?_) hsorted (pendingOf_pairwise trxs)
    (hperm.trans (List.mergeSort_perm _ _).symm)
  have ha' : a ∈ trxs := (List.mem_filter.mp (hperm.subset ha)).1
  exact eq_of_place_eq h ha' (mem_pendingOf.mp hb).1 (le_antisymm hab hba)

/-- **Classifying**: transactions that are classified leave the listing, and the others stay in
their order. -/
theorem pendingOf_map {trxs : List Transaction} (h : (trxs.map Transaction.hash).Nodup)
    {f : Transaction → Transaction} {isDone : Transaction → Bool}
    (hhash : ∀ trx, (f trx).hash = trx.hash)
    (hdone : ∀ trx, isDone trx = true → (f trx).isPending = false)
    (hother : ∀ trx, isDone trx = false → f trx = trx) :
    pendingOf (trxs.map f) = (pendingOf trxs).filter fun trx => !isDone trx := by
  have hhashes : ((trxs.map f).map Transaction.hash).Nodup := by
    rw [List.map_map]
    simpa only [Function.comp_def, hhash] using h
  have hleft : (trxs.map f).filter Transaction.isPending
      = (trxs.filter Transaction.isPending).filter fun trx => !isDone trx := by
    rw [List.filter_map, List.filter_filter]
    have hsame : Transaction.isPending ∘ f = fun trx => !isDone trx && trx.isPending := by
      funext trx
      cases hcase : isDone trx with
      | true => exact hdone trx hcase
      | false => exact congrArg Transaction.isPending (hother trx hcase)
    rw [hsame]
    refine (List.map_congr_left fun trx htrx => ?_).trans (List.map_id _)
    rw [List.mem_filter, Bool.and_eq_true, Bool.not_eq_true'] at htrx
    exact hother trx htrx.2.1
  symm
  refine eq_pendingOf hhashes ?_ ((pendingOf_pairwise trxs).filter _)
  rw [hleft]
  exact (List.mergeSort_perm _ _).filter _

/-! ### Limits -/

namespace Store

/-- The limit that no listing reaches. -/
def unlimited : UInt64 := 0xFFFFFFFFFFFFFFFF

theorem limited_unlimited {α : Type} (rows : List α) : limited unlimited rows = rows :=
  if_neg (by decide)

theorem limited_sublist {α : Type} (limit : UInt64) (rows : List α) :
    (limited limit rows).Sublist rows := by
  unfold limited
  split
  · exact List.take_sublist _ _
  · exact List.Sublist.refl _

theorem limited_map {α β : Type} (limit : UInt64) (f : α → β) (rows : List α) :
    limited limit (rows.map f) = (limited limit rows).map f := by
  unfold limited
  split
  · exact List.map_take.symm
  · rfl

end Store

/-- The pending ones of some transactions in the order of listings, at most so many. -/
def pendingUpTo (limit : UInt64) (trxs : List Transaction) : List Transaction :=
  Store.limited limit (pendingOf trxs)

section Limits

variable {limit : UInt64} {trxs : List Transaction} {trx : Transaction}

theorem pendingUpTo_unlimited (trxs : List Transaction) :
    pendingUpTo Store.unlimited trxs = pendingOf trxs :=
  Store.limited_unlimited _

theorem mem_pendingOf_of_mem_pendingUpTo (h : trx ∈ pendingUpTo limit trxs) :
    trx ∈ pendingOf trxs :=
  (Store.limited_sublist limit _).subset h

theorem pendingUpTo_nodup (h : (trxs.map Transaction.hash).Nodup) :
    (pendingUpTo limit trxs).Nodup :=
  (pendingOf_nodup h).sublist (Store.limited_sublist limit _)

end Limits

/-! ### Rows in the order of listings -/

theorem Hex.toList_toText (bs : Bytes) : (toText bs).toList = '0' :: 'x' :: encode bs := by
  simp [toText]

theorem Hex.toNat_ne_zero_of_mem_encode {bs : Bytes} {c : Char} (h : c ∈ encode bs) :
    c.toNat ≠ 0 := by
  have hdigit : ∀ n < 16, (digit n).toNat ≠ 0 := by decide
  induction bs with
  | nil => exact absurd h List.not_mem_nil
  | cons b bs ih =>
    have hb : b.toNat < 256 := b.toNat_lt
    rw [encode, List.mem_cons, List.mem_cons] at h
    rcases h with rfl | rfl | h
    · exact hdigit _ (by omega)
    · exact hdigit _ (by omega)
    · exact ih h

namespace Store

open Transaction in
theorem Cell.le_ofOption (a b : Option UInt64) :
    (ofOption a).le (ofOption b) = true ↔ blockRank a ≤ blockRank b := by
  cases a with
  | none => exact iff_of_true (by cases b <;> rfl) bot_le
  | some m =>
    cases b with
    | none => exact iff_of_false Bool.false_ne_true (WithBot.not_coe_le_bot _)
    | some n =>
      show decide ((m.toNat : Int) ≤ (n.toNat : Int)) = true
        ↔ WithBot.some m.toNat ≤ WithBot.some n.toNat
      rw [decide_eq_true_eq, WithBot.coe_le_coe, Int.ofNat_le]

namespace TransactionRow

theorem length_input_ofTransaction (trx : Transaction) :
    (ofTransaction trx).input.length = 2 + 2 * trx.input.length := by
  have hall : ∀ c ∈ '0' :: 'x' :: Hex.encode trx.input, (c.toNat != 0) = true := by
    intro c hc
    rw [List.mem_cons, List.mem_cons] at hc
    rcases hc with rfl | rfl | hc
    · rfl
    · rfl
    · exact bne_iff_ne.mpr (Hex.toNat_ne_zero_of_mem_encode hc)
  show ((Hex.toText trx.input).toList.takeWhile fun c => c.toNat != 0).length = _
  rw [Hex.toList_toText, List.takeWhile_eq_self_iff.mpr hall, List.length_cons, List.length_cons,
    Hex.length_encode]
  omega

theorem isPending_ofTransaction (trx : Transaction) :
    (ofTransaction trx).isPending = trx.isPending := by
  have hlength : decide (10 ≤ 2 + 2 * trx.input.length) = decide (4 ≤ trx.input.length) := by
    rw [decide_eq_decide]
    omega
  rw [isPending, length_input_ofTransaction, hlength, Transaction.isPending, Transaction.canBeCall]
  simp only [ofTransaction, Option.isSome_map, Option.isNone_map]

theorem le_ofTransaction (a b : Transaction) :
    (ofTransaction a).le (ofTransaction b) = decide (a.place ≤ b.place) := by
  rw [Bool.eq_iff_iff, decide_eq_true_eq, Transaction.place, Transaction.place,
    Prod.Lex.toLex_le_toLex]
  dsimp only
  have hblock : ∀ a b : Transaction,
      (ofTransaction a).blockNumber.le (ofTransaction b).blockNumber = true
        ↔ Transaction.blockRank a.blockNumber ≤ Transaction.blockRank b.blockNumber :=
    fun a b => Cell.le_ofOption a.blockNumber b.blockNumber
  have hlevel : (ofTransaction a).blockNumber.isLevelWith (ofTransaction b).blockNumber = true
      ↔ Transaction.blockRank a.blockNumber = Transaction.blockRank b.blockNumber := by
    rw [Cell.isLevelWith, Bool.and_eq_true, hblock, hblock, ← le_antisymm_iff]
  have hhash : hashLe (ofTransaction a).hash (ofTransaction b).hash = true
      ↔ a.hash.toText ≤ b.hash.toText := by
    show decide (_ ≤ _) = true ↔ _
    exact decide_eq_true_iff
  unfold TransactionRow.le
  split
  · rename_i heq
    rw [hlevel] at heq
    rw [hhash, heq]
    simp
  · rename_i hne
    rw [hlevel] at hne
    rw [hblock, lt_iff_le_and_ne]
    simp [hne]

end TransactionRow

theorem pendingRows_ofTransaction (trxs : List Transaction) :
    pendingRows (trxs.map TransactionRow.ofTransaction)
      = (pendingOf trxs).map TransactionRow.ofTransaction := by
  have hpending : TransactionRow.isPending ∘ TransactionRow.ofTransaction
      = Transaction.isPending := funext TransactionRow.isPending_ofTransaction
  rw [pendingRows, List.filter_map, hpending, pendingOf]
  exact (List.map_mergeSort fun a _ b _ => (TransactionRow.le_ofTransaction a b).symm).symm

/-- **Listings**: a table of transactions lists its pending ones, up to the limit. -/
theorem pendingCalls_eq {s : Store} {trxs : List Transaction}
    (h : s.transactions = some (trxs.map TransactionRow.ofTransaction)) (limit : UInt64) :
    s.pendingCalls limit = .ok (pendingUpTo limit trxs) := by
  unfold pendingCalls
  rw [h]
  show TransactionRow.decodeAll (limited limit (pendingRows _)) = _
  rw [pendingRows_ofTransaction, limited_map, TransactionRow.decodeAll_ofTransaction, pendingUpTo]

end Store

end OffChain
