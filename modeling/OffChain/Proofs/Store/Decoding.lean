import OffChain.Proofs.Store.Rows
import OffChain.Proofs.Traversal
import OffChain.Store.Withdrawals

/-!
# Rows of withdrawal requests that others wrote

The columns of such a row need not decode.

* `RequestRow.ReadsAs`, `RequestRow.IsMalformed`: what a row is read as, and why it may be read as
  nothing; a row that a filter lets through is one or the other (`RequestRow.exists_readsAs`).
* `RequestRow.decodeAll_eq_ok_iff`, `RequestRow.decodeAll_eq_error_iff`: reading some rows.
-/

namespace OffChain.Store

/-! ### Rows that can be read -/

namespace Cell

/-- An integer column holds a number, which is not negative. -/
def Shows (c : Cell) (n : UInt64) : Prop :=
  ∃ i : Nat, c = .integer i ∧ UInt64.ofNat i = n

theorem toUInt64_eq_ok_iff {c : Cell} {n : UInt64} : c.toUInt64 = .ok n ↔ c.Shows n := by
  unfold Shows
  cases c with
  | integer i =>
    rw [toUInt64]
    by_cases hi : 0 ≤ i
    · obtain ⟨k, rfl⟩ := Int.eq_ofNat_of_zero_le hi
      rw [if_pos hi, Except.ok.injEq]
      constructor
      · exact fun h => ⟨k, rfl, h⟩
      · rintro ⟨j, hj, h⟩
        rw [Int.ofNat.inj (Cell.integer.inj hj)]
        exact h
    · rw [if_neg hi]
      simp only [reduceCtorEq, false_iff, not_exists, not_and, integer.injEq]
      intro j hj
      omega
  | null | real | text | blob => simp [toUInt64]

/-- An integer column that may be empty holds a number, which is not negative, or nothing. -/
def ShowsOption (c : Cell) : Option UInt64 → Prop
  | none => c = .null
  | some n => c.Shows n

theorem toOption_eq_ok_iff {c : Cell} {o : Option UInt64} :
    c.toOption = .ok o ↔ c.ShowsOption o := by
  cases c with
  | null =>
    cases o with
    | none => exact iff_of_true rfl rfl
    | some n => exact iff_of_false (fun h => nomatch h) fun ⟨_, h, _⟩ => nomatch h
  | integer | real | text | blob =>
    rw [toOption, map_eq_ok_iff]
    · simp only [toUInt64_eq_ok_iff]
      cases o with
      | none => exact iff_of_false (fun ⟨_, _, h⟩ => nomatch h) (fun h => nomatch h)
      | some n => exact ⟨fun ⟨_, hm, h⟩ => Option.some.inj h ▸ hm, fun h => ⟨n, h, rfl⟩⟩
    · exact fun h => nomatch h

end Cell

namespace TextCell

theorem text?_bind_eq_some_iff {α : Type} {c : TextCell} {read : String → Option α} {a : α} :
    c.text?.bind read = some a ↔ ∃ s, c = .text s ∧ read s = some a := by
  cases c with
  | text s => simp [text?]
  | blob bs => simp [text?]

end TextCell

namespace RequestRow

/-- A row is read as a request: each of its columns decodes. -/
structure ReadsAs (row : RequestRow) (r : WithdrawRequest) : Prop where
  requestId : row.requestId.text?.bind UInt256.ofText? = some r.requestId
  address : row.address.text?.bind FixedBytes.ofText? = some r.address
  stakerId : row.stakerId.text?.bind UInt256.ofText? = some r.stakerId
  amount : row.amount.text?.bind UInt256.ofText? = some r.amount
  createdTime : row.createdTime.Shows r.createdTime
  withdrawTime : row.withdrawTime.ShowsOption r.withdrawTime

/-- A column of a row does not decode. -/
inductive IsMalformed (row : RequestRow) : Prop
  | requestId (h : row.requestId.text?.bind UInt256.ofText? = none)
  | stakerId (h : row.stakerId.text?.bind UInt256.ofText? = none)
  | amount (h : row.amount.text?.bind UInt256.ofText? = none)
  | createdTime (h : ∀ i : Nat, row.createdTime ≠ .integer i)
  | withdrawTime (hnull : row.withdrawTime ≠ .null) (h : ∀ i : Nat, row.withdrawTime ≠ .integer i)

variable {row : RequestRow}

theorem ReadsAs.not_isMalformed {r : WithdrawRequest} (h : row.ReadsAs r) : ¬row.IsMalformed := by
  rintro (hnone | hnone | hnone | hnot | ⟨hnull, hnot⟩)
  · exact absurd (hnone.symm.trans h.requestId) (Option.some_ne_none _).symm
  · exact absurd (hnone.symm.trans h.stakerId) (Option.some_ne_none _).symm
  · exact absurd (hnone.symm.trans h.amount) (Option.some_ne_none _).symm
  · obtain ⟨i, hi, -⟩ := h.createdTime
    exact hnot i hi
  · have htime := h.withdrawTime
    cases hr : r.withdrawTime with
    | none =>
      rw [hr] at htime
      exact hnull htime
    | some n =>
      rw [hr] at htime
      obtain ⟨i, hi, -⟩ := htime
      exact hnot i hi

/-- The address of a row that passes a filter decodes, for it is the text of an address. -/
theorem address_of_matchesFilter {filter : RequestFilter} (h : row.matchesFilter filter = true) :
    row.address.text?.bind FixedBytes.ofText? = some filter.address := by
  rw [matchesFilter, Bool.and_eq_true, beq_iff_eq] at h
  rw [h.1]
  exact FixedBytes.ofText?_toText filter.address

/-- A row that passes a filter can be read if it is not malformed. -/
theorem exists_readsAs {filter : RequestFilter} (h : row.matchesFilter filter = true)
    (hrow : ¬row.IsMalformed) : ∃ r, row.ReadsAs r := by
  obtain ⟨requestId, hrequestId⟩ := Option.ne_none_iff_exists'.mp fun hn => hrow (.requestId hn)
  obtain ⟨stakerId, hstakerId⟩ := Option.ne_none_iff_exists'.mp fun hn => hrow (.stakerId hn)
  obtain ⟨amount, hamount⟩ := Option.ne_none_iff_exists'.mp fun hn => hrow (.amount hn)
  obtain ⟨created, hcreated⟩ : ∃ i : Nat, row.createdTime = .integer i := by
    by_contra hnone
    exact hrow (.createdTime (not_exists.mp hnone))
  obtain ⟨withdrawn, hwithdrawn⟩ : ∃ o, row.withdrawTime.ShowsOption o := by
    by_cases hnull : row.withdrawTime = .null
    · exact ⟨none, hnull⟩
    · by_contra hnone
      refine hrow (.withdrawTime hnull fun i hi => hnone ?_)
      exact ⟨some (UInt64.ofNat i), i, hi, rfl⟩
  exact ⟨⟨requestId, filter.address, stakerId, amount, _, withdrawn⟩, hrequestId,
    address_of_matchesFilter h, hstakerId, hamount, ⟨created, hcreated, rfl⟩, hwithdrawn⟩

/-! ### Reading rows -/

theorem decodeNumber_eq_ok_iff {s : String} {n : UInt256} :
    decodeNumber s = .ok n ↔ UInt256.ofText? s = some n := by
  unfold decodeNumber
  cases UInt256.ofText? s with
  | none => exact iff_of_false (fun h => nomatch h) (fun h => nomatch h)
  | some m => rw [Except.ok.injEq, Option.some.injEq]

theorem decodeAddress_eq_ok_iff {s : String} {a : Address} :
    decodeAddress s = .ok a ↔ FixedBytes.ofText? s = some a := by
  unfold decodeAddress
  cases (FixedBytes.ofText? s : Option Address) with
  | none => exact iff_of_false (fun h => nomatch h) (fun h => nomatch h)
  | some b => rw [Except.ok.injEq, Option.some.injEq]

/-- **Row**: it is read in two steps, which together decode its columns. -/
theorem exists_decode_eq_ok_iff {r : WithdrawRequest} :
    (∃ columns, row.columns = .ok columns ∧ columns.decode = .ok r) ↔ row.ReadsAs r := by
  simp only [columns, Typed.decode, bind_eq_ok_iff, someText_eq_ok_iff, decodeNumber_eq_ok_iff,
    decodeAddress_eq_ok_iff, Cell.toUInt64_eq_ok_iff, Cell.toOption_eq_ok_iff, Except.ok.injEq]
  constructor
  · rintro ⟨_, ⟨requestId, hrequestId, address, haddress, stakerId, hstakerId, amount, hamount,
      created, hcreated, withdrawn, hwithdrawn, rfl⟩, _, hreadId, _, hreadAddress, _, hreadStaker,
      _, hreadAmount, rfl⟩
    exact
      { requestId := TextCell.text?_bind_eq_some_iff.mpr ⟨_, hrequestId, hreadId⟩
        address := TextCell.text?_bind_eq_some_iff.mpr ⟨_, haddress, hreadAddress⟩
        stakerId := TextCell.text?_bind_eq_some_iff.mpr ⟨_, hstakerId, hreadStaker⟩
        amount := TextCell.text?_bind_eq_some_iff.mpr ⟨_, hamount, hreadAmount⟩
        createdTime := hcreated
        withdrawTime := hwithdrawn }
  · intro h
    obtain ⟨_, hrequestId, hreadId⟩ := TextCell.text?_bind_eq_some_iff.mp h.requestId
    obtain ⟨_, haddress, hreadAddress⟩ := TextCell.text?_bind_eq_some_iff.mp h.address
    obtain ⟨_, hstakerId, hreadStaker⟩ := TextCell.text?_bind_eq_some_iff.mp h.stakerId
    obtain ⟨_, hamount, hreadAmount⟩ := TextCell.text?_bind_eq_some_iff.mp h.amount
    exact ⟨_, ⟨_, hrequestId, _, haddress, _, hstakerId, _, hamount, _, h.createdTime, _,
      h.withdrawTime, rfl⟩, _, hreadId, _, hreadAddress, _, hreadStaker, _, hreadAmount, rfl⟩

/-- **Rows**: they are read as some requests if each of them is. -/
theorem decodeAll_eq_ok_iff {rows : List RequestRow} {items : List WithdrawRequest} :
    decodeAll rows = .ok items ↔ List.Forall₂ ReadsAs rows items := by
  simp only [decodeAll, mapM_bind_mapM_eq_ok_iff, exists_decode_eq_ok_iff]

/-- Reading rows that pass a filter fails exactly if one of them is malformed. -/
theorem decodeAll_eq_error_iff {filter : RequestFilter} {rows : List RequestRow}
    (hrows : ∀ row ∈ rows, row.matchesFilter filter = true) :
    (∃ e, decodeAll rows = .error e) ↔ ∃ row ∈ rows, row.IsMalformed := by
  constructor
  · rintro ⟨e, he⟩
    by_contra hnone
    obtain ⟨items, hitems⟩ := exists_forall₂ fun row hrow =>
      exists_readsAs (hrows row hrow) fun hmalformed => hnone ⟨row, hrow, hmalformed⟩
    rw [decodeAll_eq_ok_iff.mpr hitems] at he
    cases he
  · rintro ⟨row, hrow, hmalformed⟩
    cases hdecode : decodeAll rows with
    | error e => exact ⟨e, rfl⟩
    | ok items =>
      have hread : List.Forall₂ (flip ReadsAs) items rows := (decodeAll_eq_ok_iff.mp hdecode).flip
      obtain ⟨r, -, hr⟩ := exists_left_of_forall₂ hread hrow
      exact absurd hmalformed hr.not_isMalformed

end RequestRow

end OffChain.Store
