import OffChain.Proofs.Store.Pending
import OffChain.Proofs.Text.Order
import OffChain.Proofs.Traversal

/-!
# What is listed as pending

Whether a row is pending is decided by the number of characters of a text, and whether a transaction
can be a call by the number of its bytes.  A text of digits has two of them a byte, so both tests
agree on whatever can be read at all, also if others wrote the row
(`Store.TransactionRow.isPending_of_decode`).  The order of rows is by the texts of hashes, which is
the order of the hashes as numbers (`Transaction.isBefore_iff`).

* `ListsPending`: the pending ones of some stored transactions, in their order.
* `pending_calls_are_listed_in_order`: a listing shows only pending calls, whatever the tables hold;
  for a store that operations led to it shows all of them, up to the limit.
-/

namespace OffChain

/-! ### Rows that can be read -/

namespace Hex

theorem length_of_decode? {cs : List Char} {bs : Bytes} (h : decode? cs = some bs) :
    cs.length = 2 * bs.length := by
  fun_induction decode? cs generalizing bs with
  | case1 =>
    obtain rfl := Option.some.inj h
    rfl
  | case2 => cases h
  | case3 high low rest ih =>
    simp only [Option.bind_eq_bind, Option.bind_eq_some_iff] at h
    obtain ⟨_, -, _, -, bs', hrest, hbs⟩ := h
    obtain rfl := Option.some.inj hbs
    have hlength := ih hrest
    simp only [List.length_cons]
    omega

/-- A text of bytes has two characters each, and perhaps two more. -/
theorem length_le_of_ofText? {s : String} {bs : Bytes} (h : ofText? s = some bs) :
    s.toList.length ≤ 2 * bs.length + 2 := by
  have hmark : ∀ cs : List Char, cs.length ≤ (body cs).length + 2 := by
    intro cs
    unfold body
    split
    · exact Nat.le_refl _
    · exact Nat.le_add_right _ _
  rw [← length_of_decode? h]
  exact hmark s.toList

end Hex

namespace Store

/-- The length of a text cell does not exceed that of its text. -/
theorem TextCell.length_le_of_someText {c : TextCell} {s : String} (h : someText c = .ok s) :
    c.length ≤ s.toList.length := by
  obtain rfl := someText_eq_ok_iff.mp h
  exact (List.takeWhile_sublist _).length_le

theorem isSome_of_mapM_eq_ok {α β : Type} {f : α → Except StoreError β} {o : Option α}
    {o' : Option β} (h : o.mapM f = .ok o') : o'.isSome = o.isSome := by
  cases o with
  | none =>
    obtain rfl := Except.ok.inj h
    rfl
  | some a =>
    rw [Option.mapM_some] at h
    obtain ⟨b, -, h⟩ := bind_eq_ok_iff.mp h
    obtain rfl := Except.ok.inj h
    rfl

namespace TransactionRow

variable {row : TransactionRow} {columns : Typed} {trx : Transaction}

/-- What a row is read as has the texts of its columns. -/
theorem texts_of_decode (h : columns.decode = .ok trx) :
    trx.recipient.isSome = columns.recipient.isSome ∧
      Hex.ofText? columns.input = some trx.input ∧ trx.targetCall = columns.targetCall := by
  unfold Typed.decode at h
  cases hhash : (FixedBytes.ofText? columns.hash : Option Hash) with
  | none =>
    rw [hhash] at h
    cases h
  | some hash =>
    rw [hhash] at h
    obtain ⟨_, -, h⟩ := bind_eq_ok_iff.mp h
    obtain ⟨sender, -, h⟩ := bind_eq_ok_iff.mp h
    obtain ⟨recipient, hrecipient, h⟩ := bind_eq_ok_iff.mp h
    cases hinput : Hex.ofText? columns.input with
    | none =>
      rw [hinput] at h
      cases h
    | some input =>
      rw [hinput] at h
      obtain rfl := Except.ok.inj h
      exact ⟨isSome_of_mapM_eq_ok hrecipient, rfl, rfl⟩

/-- Its columns are empty where those of the row are, and the text of its input is no shorter. -/
theorem texts_of_columns (h : row.columns = .ok columns) :
    columns.recipient.isSome = row.recipient.isSome ∧
      row.input.length ≤ columns.input.toList.length ∧
      columns.targetCall.isSome = row.targetCall.isSome := by
  obtain ⟨hash, -, h⟩ := bind_eq_ok_iff.mp h
  obtain ⟨block, -, h⟩ := bind_eq_ok_iff.mp h
  obtain ⟨sender, -, h⟩ := bind_eq_ok_iff.mp h
  obtain ⟨recipient, hrecipient, h⟩ := bind_eq_ok_iff.mp h
  obtain ⟨input, hinput, h⟩ := bind_eq_ok_iff.mp h
  obtain ⟨type, -, h⟩ := bind_eq_ok_iff.mp h
  obtain ⟨call, hcall, h⟩ := bind_eq_ok_iff.mp h
  obtain ⟨erc20, -, h⟩ := bind_eq_ok_iff.mp h
  obtain rfl := Except.ok.inj h
  exact ⟨isSome_of_mapM_eq_ok hrecipient, TextCell.length_le_of_someText hinput,
    isSome_of_mapM_eq_ok hcall⟩

/-- **Eligibility**: a pending row is read as a pending call. -/
theorem isPending_of_decode (hrow : row.isPending = true) (hcolumns : row.columns = .ok columns)
    (h : columns.decode = .ok trx) : trx.isPending = true := by
  obtain ⟨hrecipient, hinput, hcall⟩ := texts_of_decode h
  obtain ⟨hto, htext, hnamed⟩ := texts_of_columns hcolumns
  simp only [isPending, Bool.and_eq_true, decide_eq_true_eq] at hrow
  obtain ⟨⟨hsome, hlength⟩, hnone⟩ := hrow
  -- ten characters are four bytes behind a mark, and five without one
  have hbytes : 4 ≤ trx.input.length := by
    have hle := Hex.length_le_of_ofText? hinput
    omega
  have hunnamed : trx.targetCall = none := by
    rw [Option.isNone_iff_eq_none] at hnone
    rw [hcall, ← Option.isNone_iff_eq_none, ← Option.not_isSome, hnamed, hnone]
    rfl
  refine Transaction.isPending_iff.mpr ⟨?_, hunnamed⟩
  rw [Transaction.canBeCall, hrecipient, hto, hsome, decide_eq_true hbytes]
  rfl

/-- All that is read comes from one of the rows. -/
theorem exists_of_mem_decodeAll {rows : List TransactionRow} {trxs : List Transaction}
    (h : decodeAll rows = .ok trxs) (htrx : trx ∈ trxs) :
    ∃ row ∈ rows, ∃ columns, row.columns = .ok columns ∧ columns.decode = .ok trx :=
  exists_left_of_forall₂ (mapM_bind_mapM_eq_ok_iff.mp h) htrx

end TransactionRow

/-- **Soundness**: whatever the tables hold, only pending calls are listed. -/
theorem isPending_of_mem_pendingCalls {s : Store} {limit : UInt64} {listed : List Transaction}
    (h : s.pendingCalls limit = .ok listed) {trx : Transaction} (htrx : trx ∈ listed) :
    trx.isPending = true := by
  obtain ⟨rows, -, h⟩ := bind_eq_ok_iff.mp h
  obtain ⟨row, hrow, columns, hcolumns, hdecode⟩ := TransactionRow.exists_of_mem_decodeAll h htrx
  have hpending := (limited_sublist limit _).subset hrow
  rw [pendingRows, List.mem_mergeSort, List.mem_filter] at hpending
  exact TransactionRow.isPending_of_decode hpending.2 hcolumns hdecode

end Store

/-! ### The order of calls -/

namespace Transaction

/-- Whether a transaction is listed before another one: by block, those without one first, and then
by the number that the hash is. -/
def IsBefore (a b : Transaction) : Prop :=
  blockRank a.blockNumber < blockRank b.blockNumber ∨
    blockRank a.blockNumber = blockRank b.blockNumber ∧ a.hash.toNat < b.hash.toNat

theorem isBefore_iff {a b : Transaction} : a.IsBefore b ↔ a.place < b.place := by
  rw [place, place, Prod.Lex.toLex_lt_toLex, IsBefore, FixedBytes.toText_lt_iff]

end Transaction

theorem pendingOf_pairwise_isBefore {trxs : List Transaction}
    (h : (trxs.map Transaction.hash).Nodup) : (pendingOf trxs).Pairwise Transaction.IsBefore := by
  refine ((pendingOf_pairwise trxs).and (pendingOf_nodup h)).imp_of_mem fun ha hb hab => ?_
  have hne := fun heq =>
    hab.2 (eq_of_place_eq h (mem_pendingOf.mp ha).1 (mem_pendingOf.mp hb).1 heq)
  exact Transaction.isBefore_iff.mpr (lt_of_le_of_ne hab.1 hne)

/-- A listing of the pending ones of the stored transactions, each of them once. -/
structure ListsPending (stored : Hash → Option Transaction) (listed : List Transaction) : Prop where
  /-- They are the stored ones that can be calls and have not been classified. -/
  mem_iff : ∀ trx, trx ∈ listed ↔
    stored trx.hash = some trx ∧ trx.canBeCall = true ∧ trx.targetCall = none
  /-- They are in order. -/
  ordered : listed.Pairwise Transaction.IsBefore

theorem IsTableOf.listsPending {trxs : List Transaction} {m : Finmap fun _ : Hash => Transaction}
    (h : IsTableOf Transaction.hash trxs m) :
    ListsPending (fun hash => m.lookup hash) (pendingOf trxs) where
  mem_iff trx := by
    rw [mem_pendingOf, h.lookup_iff, Transaction.isPending_iff]
    simp only [and_true]
  ordered := pendingOf_pairwise_isBefore h.nodup

/-- **Pending calls**: a listing shows only what can be a call and has not been classified, whatever
the tables hold.  If the store was reached by operations, failures included, the listing succeeds
and shows the first of all such transactions, as many as the limit says; a limit beyond the
integers of the database is none. -/
theorem pending_calls_are_listed_in_order :
    (∀ (s : Store) (limit : UInt64) (listed : List Transaction),
      s.pendingCalls limit = .ok listed →
        ∀ trx ∈ listed, trx.canBeCall = true ∧ trx.targetCall = none) ∧
    ∀ ops : List Operation, ∃ (stored : Hash → Option Transaction) (pending : List Transaction),
      (∀ hash, (runAll Records.perform .empty ops).1.transactions.lookup hash = stored hash) ∧
      (∀ hash, (runAll Store.perform .empty ops).1.findTransaction hash = .ok (stored hash)) ∧
      ListsPending stored pending ∧
      (∀ limit : UInt64, limit.toNat ≤ Store.maxInteger →
        (runAll Store.perform .empty ops).1.pendingCalls limit
          = .ok (pending.take (min limit.toNat pending.length))) ∧
      ∀ limit : UInt64, Store.maxInteger < limit.toNat →
        (runAll Store.perform .empty ops).1.pendingCalls limit = .ok pending := by
  refine ⟨fun s limit listed h trx htrx => ?_, fun ops => ?_⟩
  · exact Transaction.isPending_iff.mp (Store.isPending_of_mem_pendingCalls h htrx)
  · obtain ⟨hholds, -⟩ := Store.runAll_agrees Store.holds_empty ops
    obtain ⟨trxs, hrows, htable⟩ := hholds.transactions
    refine ⟨_, pendingOf trxs, fun _ => rfl, hholds.findTransaction_eq, htable.listsPending,
      fun limit hlimit => ?_, fun limit hlimit => ?_⟩
    · rw [Store.pendingCalls_eq hrows, pendingUpTo, Store.limited, if_pos hlimit,
        ← List.take_eq_take_min]
    · rw [Store.pendingCalls_eq hrows, pendingUpTo, Store.limited, if_neg (Nat.not_le.mpr hlimit)]

end OffChain
