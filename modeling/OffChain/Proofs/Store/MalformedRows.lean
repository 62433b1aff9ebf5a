import Mathlib.Data.List.Perm.Subperm
import Mathlib.Data.List.Sort
import OffChain.Proofs.Store.Changes
import OffChain.Proofs.Store.Decoding
import OffChain.Proofs.Store.Window

/-!
# Malformed rows

A page decodes the rows that it shows and no others, so it fails exactly if one of these is
malformed (`Store.page_eq_error_iff`), and what is in other rows does not show in its requests
(`Store.map_contentsOf_page`).

* `Store.IsSelection`: the rows of a page, which are the only ones that are so
  (`Store.IsSelection.eq_selectPage`).
* `pages_fail_by_their_own_rows`: pages of any store.
-/

namespace OffChain

namespace Store

/-! ### Selections -/

/-- Which rows of a listing, oldest first, a page at a cursor shows, newest first. -/
structure IsSelection (rows : List RequestRow) (start : Option Int) (count : Int32)
    (selected : List RequestRow) : Prop where
  /-- The newest one comes first. -/
  descending : selected.Pairwise fun a b => b.seq < a.seq
  /-- They lie beyond the cursor. -/
  beyond : ∀ row ∈ selected,
    row ∈ rows ∧ (Direction.ofCount count).isBeyond start row.seq = true
  /-- There are as many as were asked for, or all that there are. -/
  length_eq : selected.length = min count.toInt.natAbs
    (rows.countP fun row => (Direction.ofCount count).isBeyond start row.seq)
  /-- What is left lies beyond all of them. -/
  nearest : ∀ row ∈ rows, (Direction.ofCount count).isBeyond start row.seq = true →
    row ∉ selected → ∀ other ∈ selected,
      (Direction.ofCount count).isBeyond (some (other.seq : Int)) row.seq = true

variable {rows selected : List RequestRow} {start : Option Int} {count : Int32}

/-- The rows that lie beyond a cursor, the nearest one first. -/
def ahead (rows : List RequestRow) (start : Option Int) (d : Direction) : List RequestRow :=
  d.orient (rows.filter fun row => d.isBeyond start row.seq).reverse

theorem selectPage_eq (rows : List RequestRow) (start : Option Int) (count : Int32) :
    selectPage rows start count = (Direction.ofCount count).orient
      ((ahead rows start (.ofCount count)).take count.toInt.natAbs) := by
  unfold selectPage
  by_cases hcount : 0 < count.toInt
  · have hd : Direction.ofCount count = .older := if_pos hcount
    rw [hd]
    simp only [hcount, if_true]
    rfl
  · have hd : Direction.ofCount count = .newer := if_neg hcount
    rw [hd]
    simp only [hcount, if_false, ahead, Direction.orient, List.reverse_reverse]
    rfl

theorem mem_ahead {d : Direction} {row : RequestRow} :
    row ∈ ahead rows start d ↔ row ∈ rows ∧ d.isBeyond start row.seq = true := by
  rw [ahead, Direction.mem_orient, List.mem_reverse, List.mem_filter]

/-- Each of them lies beyond the ones before it. -/
theorem ahead_pairwise (hrows : rows.Pairwise fun a b => a.seq < b.seq) (start : Option Int)
    (d : Direction) :
    (ahead rows start d).Pairwise fun a b => d.isBeyond (some (a.seq : Int)) b.seq = true := by
  have hascending := hrows.filter fun row => d.isBeyond start row.seq
  cases d with
  | older =>
    refine List.pairwise_reverse.mpr (hascending.imp fun {a b} hab => ?_)
    simpa [Direction.isBeyond] using hab
  | newer =>
    rw [ahead, Direction.orient, List.reverse_reverse]
    refine hascending.imp fun {a b} hab => ?_
    simpa [Direction.isBeyond] using hab

/-- **Selection**: a page selects the rows nearest to the cursor. -/
theorem selectPage_isSelection (hrows : rows.Pairwise fun a b => a.seq < b.seq)
    (start : Option Int) (count : Int32) :
    IsSelection rows start count (selectPage rows start count) where
  descending := by
    rw [selectPage_eq]
    have hpairwise := (ahead_pairwise hrows start (.ofCount count)).sublist
      (List.take_sublist count.toInt.natAbs _)
    cases hd : Direction.ofCount count with
    | older =>
      rw [hd] at hpairwise
      refine hpairwise.imp fun {a b} hab => ?_
      simpa [Direction.isBeyond] using hab
    | newer =>
      rw [hd] at hpairwise
      refine List.pairwise_reverse.mpr (hpairwise.imp fun {a b} hab => ?_)
      simpa [Direction.isBeyond] using hab
  beyond := by
    intro row hrow
    rw [selectPage_eq, Direction.mem_orient] at hrow
    exact mem_ahead.mp (List.mem_of_mem_take hrow)
  length_eq := by
    rw [selectPage_eq, Direction.length_orient, List.length_take, ahead, Direction.length_orient,
      List.length_reverse, ← List.countP_eq_length_filter]
  nearest := by
    intro row hrow hbeyond hleft other hother
    have hsplit := List.take_append_drop count.toInt.natAbs (ahead rows start (.ofCount count))
    have hpairwise := ahead_pairwise hrows start (.ofCount count)
    have hmem : row ∈ ahead rows start (.ofCount count) := mem_ahead.mpr ⟨hrow, hbeyond⟩
    rw [selectPage_eq, Direction.mem_orient] at hleft hother
    rw [← hsplit] at hpairwise hmem
    have hrest := (List.mem_append.mp hmem).resolve_left hleft
    exact (List.pairwise_append.mp hpairwise).2.2 other hother row hrest

theorem IsSelection.nodup (h : IsSelection rows start count selected) : selected.Nodup := by
  refine h.descending.imp fun {a b} hab heq => ?_
  rw [heq] at hab
  exact Nat.lt_irrefl _ hab

/-- No other rows are so: of two selections, a row that only the first one has and a row that only
the second one has would each lie beyond the other. -/
theorem IsSelection.subset {selected' : List RequestRow} (h : IsSelection rows start count selected)
    (h' : IsSelection rows start count selected') : selected ⊆ selected' := by
  intro row hrow
  by_contra hleft
  obtain ⟨other, hother, hother'⟩ : ∃ other ∈ selected', other ∉ selected := by
    by_contra hnone
    have hsubset : selected' ⊆ selected := fun other hmem =>
      by_contra fun hnot => hnone ⟨other, hmem, hnot⟩
    have hlength : selected.length ≤ selected'.length := by rw [h.length_eq, h'.length_eq]
    have hperm := (h'.nodup.subperm hsubset).perm_of_length_le hlength
    exact hleft (hperm.mem_iff.mpr hrow)
  obtain ⟨hmem, hbeyond⟩ := h.beyond row hrow
  obtain ⟨hmem', hbeyond'⟩ := h'.beyond other hother
  have hfar := h.nearest other hmem' hbeyond' hother' row hrow
  exact Direction.not_isBeyond_of_isBeyond hfar (h'.nearest row hmem hbeyond hleft other hother)

theorem IsSelection.eq_selectPage (hrows : rows.Pairwise fun a b => a.seq < b.seq)
    (h : IsSelection rows start count selected) : selected = selectPage rows start count := by
  have h' := selectPage_isSelection hrows start count
  have hperm : selected.Perm (selectPage rows start count) :=
    (List.perm_ext_iff_of_nodup h.nodup h'.nodup).mpr fun row =>
      ⟨fun hrow => h.subset h' hrow, fun hrow => h'.subset h hrow⟩
  refine hperm.eq_of_pairwise ?_ h.descending h'.descending
  exact fun a b _ _ hab hba => absurd hab (Nat.lt_asymm hba)

/-! ### Pages -/

/-- What a page shows: its requests and the cursors of the first and the last one. -/
def contentsOf (p : RequestPage) : List WithdrawRequest × Option String × Option String :=
  (p.items, p.first, p.last)

theorem contentsOf_pageOf (rows : List RequestRow) {selected : List RequestRow}
    {items : List WithdrawRequest} (hitems : List.Forall₂ RequestRow.ReadsAs selected items)
    (forward withCursor : Bool) :
    contentsOf (pageOf rows selected items forward withCursor)
      = (items, selected.head?.map fun row => Cursor.text row.seq,
        selected.getLast?.map fun row => Cursor.text row.seq) := by
  by_cases hempty : selected = []
  · subst hempty
    rw [List.forall₂_nil_left_iff.mp hitems]
    rfl
  · obtain ⟨newest, oldest, hhead, hlast⟩ := RequestLog.exists_ends hempty
    rw [pageOf, hhead, hlast]
    rfl

/-- A page at a cursor is read from the rows that the filter lets through. -/
theorem page_eq_readPage {s : Store} {ledger : Ledger} (hledger : s.ledger = some ledger)
    (filter : RequestFilter) {cursor : Option String} {start : Option Int}
    (hcursor : cursor.mapM Cursor.read = .ok start) {count : Int32} (hcount : count.toInt ≠ 0) :
    s.page filter cursor count
      = readPage (ledger.rows.filter (RequestRow.matchesFilter filter)) start count := by
  rw [page, if_neg hcount, hledger, hcursor]
  rfl

/-- **Items**: they are what the selected rows are read as. -/
theorem readPage_eq_ok {p : RequestPage} (h : readPage rows start count = .ok p) :
    List.Forall₂ RequestRow.ReadsAs (selectPage rows start count) p.items := by
  obtain ⟨items, hitems, hp⟩ := bind_eq_ok_iff.mp h
  have hread := RequestRow.decodeAll_eq_ok_iff.mp hitems
  have hcontents := contentsOf_pageOf rows hread (decide (0 < count.toInt)) start.isSome
  rw [Except.ok.inj hp] at hcontents
  rw [show p.items = items from congrArg Prod.fst hcontents]
  exact hread

/-- A page reads the rows that it selects. -/
theorem readPage_eq (rows : List RequestRow) (start : Option Int) (count : Int32) :
    readPage rows start count =
      (RequestRow.decodeAll (selectPage rows start count)).map fun items =>
        pageOf rows (selectPage rows start count) items (decide (0 < count.toInt))
          start.isSome := by
  simp only [readPage]
  cases RequestRow.decodeAll (selectPage rows start count) <;> rfl

/-- **Failure**: a page fails if a row that it selects is malformed. -/
theorem readPage_eq_error_iff (hrows : rows.Pairwise fun a b => a.seq < b.seq)
    {filter : RequestFilter} (hfilter : ∀ row ∈ rows, row.matchesFilter filter = true) :
    (∃ e, readPage rows start count = .error e) ↔
      ∃ selected, IsSelection rows start count selected ∧ ∃ row ∈ selected, row.IsMalformed := by
  have hselection := selectPage_isSelection hrows start count
  have hmatches : ∀ row ∈ selectPage rows start count, row.matchesFilter filter = true :=
    fun row hrow => hfilter row (hselection.beyond row hrow).1
  have hdecode : (∃ e, readPage rows start count = .error e) ↔
      ∃ e, RequestRow.decodeAll (selectPage rows start count) = .error e := by
    rw [readPage_eq]
    cases RequestRow.decodeAll (selectPage rows start count) with
    | error e => exact iff_of_true ⟨_, rfl⟩ ⟨_, rfl⟩
    | ok items => exact iff_of_false (fun ⟨_, h⟩ => nomatch h) (fun ⟨_, h⟩ => nomatch h)
  rw [hdecode, RequestRow.decodeAll_eq_error_iff hmatches]
  constructor
  · exact fun hrow => ⟨_, hselection, hrow⟩
  · rintro ⟨selected, hselected, hrow⟩
    rw [← hselected.eq_selectPage hrows]
    exact hrow

/-- **Other rows**: they do not show in what a page shows, nor in why it fails. -/
theorem map_contentsOf_readPage {rows' : List RequestRow}
    (h : selectPage rows' start count = selectPage rows start count) :
    (readPage rows' start count).map contentsOf = (readPage rows start count).map contentsOf := by
  rw [readPage_eq, readPage_eq, h]
  cases hdecode : RequestRow.decodeAll (selectPage rows start count) with
  | error e => rfl
  | ok items =>
    have hread := RequestRow.decodeAll_eq_ok_iff.mp hdecode
    show Except.ok (contentsOf (pageOf ..)) = Except.ok (contentsOf (pageOf ..))
    rw [contentsOf_pageOf rows' hread, contentsOf_pageOf rows hread]

/-- Reading a cursor fails at a text that is no number, and only there. -/
theorem mapM_read_cases (cursor : Option String) :
    (∃ text, cursor = some text ∧ Cursor.number? text = none) ∨
      ∃ start, cursor.mapM Cursor.read = .ok start := by
  cases cursor with
  | none => exact .inr ⟨none, rfl⟩
  | some text =>
    cases hnumber : Cursor.number? text with
    | none => exact .inl ⟨text, rfl, hnumber⟩
    | some i =>
      refine .inr ⟨some i, ?_⟩
      rw [Option.mapM_some, Cursor.read, hnumber]
      rfl

/-- A cursor that is read is no text that is no number. -/
theorem number?_ne_none {cursor : Option String} (hcursor : cursor.mapM Cursor.read = .ok start)
    {text : String} (htext : cursor = some text) : Cursor.number? text ≠ none := by
  rintro hnone
  rw [htext, Option.mapM_some, Cursor.read, hnone] at hcursor
  cases hcursor

section

variable {s : Store} {ledger : Ledger} (hledger : s.ledger = some ledger)
  (hordered : ledger.IsOrdered) (filter : RequestFilter) (cursor : Option String) (count : Int32)

include hledger hordered

theorem page_eq_error_iff : (∃ e, s.page filter cursor count = .error e) ↔
    count.toInt = 0 ∨ (∃ text, cursor = some text ∧ Cursor.number? text = none) ∨
      ∃ start selected, cursor.mapM Cursor.read = .ok start ∧
        IsSelection (ledger.rows.filter (RequestRow.matchesFilter filter)) start count selected ∧
          ∃ row ∈ selected, row.IsMalformed := by
  by_cases hcount : count.toInt = 0
  · exact iff_of_true ⟨_, s.page_of_zero filter cursor hcount⟩ (.inl hcount)
  · rcases mapM_read_cases cursor with ⟨text, rfl, htext⟩ | ⟨start, hcursor⟩
    · exact iff_of_true ⟨_, page_of_unreadable hledger filter htext hcount⟩
        (.inr (.inl ⟨text, rfl, htext⟩))
    · rw [page_eq_readPage hledger filter hcursor hcount,
        readPage_eq_error_iff (hordered.ascending.filter _) fun row hrow =>
          (List.mem_filter.mp hrow).2]
      constructor
      · rintro ⟨selected, hselected, hrow⟩
        exact .inr (.inr ⟨start, selected, hcursor, hselected, hrow⟩)
      · rintro (hzero | ⟨text, htext, hnone⟩ | ⟨start', selected, hstart, hselected, hrow⟩)
        · exact absurd hzero hcount
        · exact absurd hnone (number?_ne_none hcursor htext)
        · obtain rfl := Except.ok.inj (hcursor.symm.trans hstart)
          exact ⟨selected, hselected, hrow⟩

theorem exists_selection_of_page {p : RequestPage} (h : s.page filter cursor count = .ok p) :
    ∃ start selected, cursor.mapM Cursor.read = .ok start ∧
      IsSelection (ledger.rows.filter (RequestRow.matchesFilter filter)) start count selected ∧
        List.Forall₂ RequestRow.ReadsAs selected p.items := by
  by_cases hcount : count.toInt = 0
  · rw [page_of_zero s filter cursor hcount] at h
    exact nomatch h
  · rcases mapM_read_cases cursor with ⟨text, rfl, htext⟩ | ⟨start, hcursor⟩
    · rw [page_of_unreadable hledger filter htext hcount] at h
      exact nomatch h
    · rw [page_eq_readPage hledger filter hcursor hcount] at h
      exact ⟨start, _, hcursor, selectPage_isSelection (hordered.ascending.filter _) start count,
        readPage_eq_ok h⟩

/-- Pages of two stores that select the same rows show the same, or fail for the same reason. -/
theorem map_contentsOf_page {s' : Store} {ledger' : Ledger} (hledger' : s'.ledger = some ledger')
    (hordered' : ledger'.IsOrdered)
    (hselected : ∀ start, cursor.mapM Cursor.read = .ok start → ∃ selected,
      IsSelection (ledger.rows.filter (RequestRow.matchesFilter filter)) start count selected ∧
        IsSelection (ledger'.rows.filter (RequestRow.matchesFilter filter)) start count selected) :
    (s'.page filter cursor count).map contentsOf = (s.page filter cursor count).map contentsOf := by
  by_cases hcount : count.toInt = 0
  · rw [page_of_zero s filter cursor hcount, page_of_zero s' filter cursor hcount]
  · rcases mapM_read_cases cursor with ⟨text, rfl, htext⟩ | ⟨start, hcursor⟩
    · rw [page_of_unreadable hledger filter htext hcount,
        page_of_unreadable hledger' filter htext hcount]
    · obtain ⟨selected, hthese, hthose⟩ := hselected start hcursor
      rw [page_eq_readPage hledger filter hcursor hcount,
        page_eq_readPage hledger' filter hcursor hcount]
      refine map_contentsOf_readPage ?_
      rw [← hthese.eq_selectPage (hordered.ascending.filter _),
        ← hthose.eq_selectPage (hordered'.ascending.filter _)]

end

end Store

open Store

/-- **Malformed rows**: however a fresh store was changed, through it or past it, its withdrawal
requests are listed in order.  Of any table that is, a page fails exactly if no request was asked
for, the cursor is none, or one of the rows nearest to the cursor, as many as were asked for, has a
column that does not decode; other rows show neither in its requests nor in its cursors, nor in why
it fails; and each request that it shows is what its row is read as. -/
theorem pages_fail_by_their_own_rows :
    (∀ changes, (Store.empty.changeAll changes).IsOrdered) ∧
    ∀ (s : Store) (ledger : Ledger), s.ledger = some ledger → ledger.IsOrdered →
      ∀ (filter : RequestFilter) (cursor : Option String) (count : Int32),
        let rows := ledger.rows.filter (RequestRow.matchesFilter filter)
        ((∃ e, s.page filter cursor count = .error e) ↔
          count.toInt = 0 ∨
          (∃ text, cursor = some text ∧ Cursor.number? text = none) ∨
          ∃ start selected, cursor.mapM Cursor.read = .ok start ∧
            IsSelection rows start count selected ∧ ∃ row ∈ selected, row.IsMalformed) ∧
        (∀ p, s.page filter cursor count = .ok p → ∃ start selected,
          cursor.mapM Cursor.read = .ok start ∧ IsSelection rows start count selected ∧
            List.Forall₂ RequestRow.ReadsAs selected p.items) ∧
        ∀ (s' : Store) (ledger' : Ledger), s'.ledger = some ledger' → ledger'.IsOrdered →
          (∀ start, cursor.mapM Cursor.read = .ok start → ∃ selected,
            IsSelection rows start count selected ∧
              IsSelection (ledger'.rows.filter (RequestRow.matchesFilter filter)) start count
                selected) →
          (s'.page filter cursor count).map contentsOf
            = (s.page filter cursor count).map contentsOf := by
  refine ⟨isOrdered_empty.changeAll, fun s ledger hledger hordered filter cursor count => ?_⟩
  refine ⟨page_eq_error_iff hledger hordered filter cursor count, fun p hp => ?_, ?_⟩
  · exact exists_selection_of_page hledger hordered filter cursor count hp
  · intro s' ledger' hledger' hordered' hselected
    exact map_contentsOf_page hledger hordered filter cursor count hledger' hordered' hselected

/-- A fresh store after a row with some text for its identifier was written past it and a request of
the same delegator was offered to it. -/
def storeWithRow (requestId : String) : Store :=
  Store.empty.changeAll
    [.writeWithdrawRequest
      [("request_id", .text requestId), ("address", .text (FixedBytes.zero : Address).toText),
        ("staker_id", .text "0x1"), ("amount", .text "0x1"), ("created_time", .integer 0)],
      .perform (.addRequests [openRequest 1])]

/-- What its pages list, oldest first. -/
def rowsWithRow (requestId : String) : List RequestRow :=
  ((storeWithRow requestId).ledger.getD .empty).rows.filter
    (RequestRow.matchesFilter ⟨FixedBytes.zero, none⟩)

/-- A row with a malformed identifier fails the page that shows it.  A page of one request does not
reach it, and is what it is with a well-formed identifier. -/
theorem malformed_row_fails_only_its_page :
    (∃ selected, IsSelection (rowsWithRow "none") none 2 selected ∧
      ∃ row ∈ selected, row.IsMalformed) ∧
    (∃ p, (storeWithRow "none").page ⟨FixedBytes.zero, none⟩ none 1 = .ok p ∧
      p.items = [openRequest 1] ∧
      ∃ selected, IsSelection (rowsWithRow "none") none 1 selected ∧
        List.Forall₂ RequestRow.ReadsAs selected p.items) ∧
    ((storeWithRow "0x7").page ⟨FixedBytes.zero, none⟩ none 1).map contentsOf
      = ((storeWithRow "none").page ⟨FixedBytes.zero, none⟩ none 1).map contentsOf := by
  obtain ⟨hreached, hpages⟩ := pages_fail_by_their_own_rows
  have hledger : ∀ requestId, ∃ ledger, (storeWithRow requestId).ledger = some ledger ∧
      ledger.IsOrdered ∧ ledger.rows.filter (RequestRow.matchesFilter ⟨FixedBytes.zero, none⟩)
        = rowsWithRow requestId := by
    intro requestId
    obtain ⟨ledger, hledger, hordered⟩ : (storeWithRow requestId).IsOrdered := hreached _
    refine ⟨ledger, hledger, hordered, ?_⟩
    rw [rowsWithRow, hledger, Option.getD_some]
  obtain ⟨ledger, hnone, hordered, hrows⟩ := hledger "none"
  obtain ⟨ledger', hseven, hordered', hrows'⟩ := hledger "0x7"
  have hstart : ∀ start, (none : Option String).mapM Cursor.read = .ok start → start = none :=
    fun start h => (Except.ok.inj h).symm
  have hpagesNone := hpages _ ledger hnone hordered ⟨FixedBytes.zero, none⟩ none
  rw [hrows] at hpagesNone
  refine ⟨?_, ?_, ?_⟩
  · have hfails : ∃ e, (storeWithRow "none").page ⟨FixedBytes.zero, none⟩ none 2 = .error e :=
      ⟨.malformedNumber "none", by decide +kernel⟩
    rcases (hpagesNone 2).1.mp hfails with
      hzero | ⟨text, htext, -⟩ | ⟨start, selected, hread, hselected, hrow⟩
    · exact absurd hzero (by decide)
    · exact nomatch htext
    · obtain rfl := hstart start hread
      exact ⟨selected, hselected, hrow⟩
  · have hpage : (storeWithRow "none").page ⟨FixedBytes.zero, none⟩ none 1
        = .ok ⟨[openRequest 1], 2, some "0x2", some "0x2", true, false⟩ := by
      decide +kernel
    obtain ⟨start, selected, hread, hselected, hreads⟩ := (hpagesNone 1).2.1 _ hpage
    obtain rfl := hstart start hread
    exact ⟨_, hpage, rfl, selected, hselected, hreads⟩
  · refine (hpagesNone 1).2.2 _ ledger' hseven hordered' fun start hread => ?_
    obtain rfl := hstart start hread
    rw [hrows']
    -- one row is selected, the same one in both tables
    have hsame : selectPage (rowsWithRow "0x7") none 1
        = selectPage (rowsWithRow "none") none 1 := by
      decide +kernel
    have hnearest : IsSelection (rowsWithRow "none") none 1
        (selectPage (rowsWithRow "none") none 1) :=
      selectPage_isSelection (hrows ▸ hordered.ascending.filter _) none 1
    have hnearest' : IsSelection (rowsWithRow "0x7") none 1
        (selectPage (rowsWithRow "0x7") none 1) :=
      selectPage_isSelection (hrows' ▸ hordered'.ascending.filter _) none 1
    rw [hsame] at hnearest'
    exact ⟨_, hnearest, hnearest'⟩

end OffChain
