import OffChain.Proofs.Store.Window

/-!
# The way back

A reader who goes on from a page and then turns round sees the page again: from the next page, as
many requests in the opposite direction as the first page showed are just those that it showed, and
what it said of them is said again.

The listing in one direction is the reverse of the listing in the other one.  A reader who stands at
the first request that a page left has behind him, nearest first, the reverse of what it showed and
then what was passed by before (`RequestLog.rest_opposite`).

* `RequestLog.page_again`: the two pages of a log are equal.
* `paging_back_undoes_paging_on`: so are those of a store, in both directions.
-/

namespace OffChain

namespace Direction

/-- The other direction. -/
def opposite : Direction → Direction
  | older => newer
  | newer => older

theorem orient_opposite {α : Type} (d : Direction) (xs : List α) :
    d.opposite.orient xs = (d.orient xs).reverse := by
  cases d with
  | older => rfl
  | newer => exact (List.reverse_reverse xs).symm

theorem edge_opposite_orient {α : Type} (d : Direction) (xs : List α) :
    d.opposite.edge (d.orient xs) = xs.head? := by
  cases d with
  | older => rfl
  | newer => exact List.getLast?_reverse

theorem orient_reverse {α : Type} (d : Direction) (xs : List α) :
    d.orient xs.reverse = (d.orient xs).reverse := by
  cases d <;> rfl

end Direction

namespace RequestLog

variable {log : RequestLog} {d : Direction} {filter : RequestFilter} {start : Option Int}
  {count : Int32}

/-! ### Turning round -/

/-- At an entry of the listing, what is before a reader in one direction is behind him in the other
one. -/
theorem rest_opposite (h : log.Sound) {before after : List (Nat × WithdrawRequest)}
    {e : Nat × WithdrawRequest} (hrest : log.rest d filter none = before ++ e :: after) :
    log.rest d.opposite filter (some (e.1 : Int)) = before.reverse := by
  have hreverse : log.rest d.opposite filter none = after.reverse ++ e :: before.reverse := by
    rw [rest_none, Direction.orient_opposite, ← rest_none, hrest]
    simp
  exact rest_of_append h hreverse

/-- Pages that show the same say the same. -/
theorem page_eq_of_window_eq {start' : Option Int} {count' : Int32}
    (hwindow : log.window filter start' count' = log.window filter start count)
    (hne : log.window filter start count ≠ []) :
    log.page filter start' count' = log.page filter start count := by
  obtain ⟨newest, oldest, hhead, hlast⟩ := exists_ends hne
  rw [page_of_ends hhead hlast, page_of_ends (hwindow ▸ hhead) (hwindow ▸ hlast), hwindow]

/-- The cursor that leads back from a page is that of the first request before the reader. -/
theorem next_opposite_page (hcount : count.toInt ≠ 0) {e : Nat × WithdrawRequest}
    {after : List (Nat × WithdrawRequest)}
    (hrest : log.rest (.ofCount count) filter start = e :: after) :
    (Direction.ofCount count).opposite.next (log.page filter start count)
      = some (Store.Cursor.text e.1) := by
  obtain ⟨n, hn⟩ := Nat.exists_eq_succ_of_ne_zero fun h => hcount (Int.natAbs_eq_zero.mp h)
  rw [next_page, window, Direction.edge_opposite_orient, hrest, hn, List.take_succ_cons,
    List.head?_cons, Option.map_some]

/-- **Way back**: a reader who goes on from a page that leaves something and turns round on the next
page sees the first one again. -/
theorem page_again (h : log.Sound) {more back : Int32} (hcount : count.toInt ≠ 0)
    (hmore : more.toInt ≠ 0) (hon : Direction.ofCount more = .ofCount count)
    (hback : Direction.ofCount back = (Direction.ofCount count).opposite)
    (hsize : back.toInt.natAbs = (log.window filter start count).length)
    (hwindow : log.window filter start count ≠ [])
    (hleft : (log.rest (.ofCount count) filter start).drop count.toInt.natAbs ≠ []) :
    ∃ c ≤ log.lastSeq,
      (Direction.ofCount count).next (log.page filter start count)
          = some (Store.Cursor.text c) ∧
        log.window filter (some (c : Int)) more ≠ [] ∧
        ∃ f ≤ log.lastSeq,
          (Direction.ofCount count).opposite.next (log.page filter (some (c : Int)) more)
              = some (Store.Cursor.text f) ∧
            log.page filter (some (f : Int)) back = log.page filter start count := by
  have hrest : log.rest (.ofCount count) filter start ≠ [] := by
    intro hnil
    rw [hnil, List.drop_nil] at hleft
    exact hleft rfl
  obtain ⟨c, hc, hnext, hdrop⟩ := exists_next_page h hcount hrest
  obtain ⟨e, after, hafter⟩ := List.exists_cons_of_ne_nil hleft
  rw [hafter] at hdrop
  have hbeyond : log.rest (.ofCount more) filter (some (c : Int)) = e :: after := by
    rw [hon]
    exact hdrop
  obtain ⟨passed, hpassed, -⟩ := exists_passed h (.ofCount count) filter start
  -- the listing: what was passed by, what was shown, and what is left, beginning with `e`
  have hall : log.rest (.ofCount count) filter none
      = (passed ++ (Direction.ofCount count).orient (log.window filter start count))
          ++ e :: after := by
    rw [hpassed, orient_window, ← hafter, List.append_assoc, List.take_append_drop]
  have hshown : log.window filter (some (e.1 : Int)) back = log.window filter start count := by
    have hlength : ((Direction.ofCount count).orient
        (log.window filter start count)).reverse.length = back.toInt.natAbs := by
      rw [List.length_reverse, Direction.length_orient, hsize]
    rw [window, hback, rest_opposite h hall, List.reverse_append, List.take_left' hlength,
      Direction.orient_opposite, Direction.orient_reverse, List.reverse_reverse,
      Direction.orient_orient]
  have hmem : e ∈ log.rest (.ofCount more) filter (some (c : Int)) :=
    hbeyond ▸ List.mem_cons_self
  have hle : e.1 ≤ log.lastSeq := h.seq_le e (List.mem_filter.mp (mem_rest.mp hmem).1).1
  have hshows : log.window filter (some (c : Int)) more ≠ [] :=
    mt (window_eq_nil hmore).mp (List.ne_nil_of_mem hmem)
  refine ⟨c, hc, hnext, hshows, e.1, hle, ?_, page_eq_of_window_eq hshown hwindow⟩
  · rw [← hon]
    exact next_opposite_page hmore hbeyond

theorem length_items_le (log : RequestLog) (filter : RequestFilter) (start : Option Int)
    (count : Int32) : (log.page filter start count).items.length ≤ count.toInt.natAbs := by
  rw [page_items_eq, List.length_map, ← Direction.length_orient (.ofCount count), orient_window]
  exact List.length_take_le _ _

end RequestLog

/-! ### Pages of a store -/

namespace Store

/-- A page can be read only from a cursor. -/
theorem exists_start {s : Store} {log : RequestLog} (hledger : s.ledger = some log.toLedger)
    {filter : RequestFilter} {cursor : Option String} {count : Int32} (hcount : count.toInt ≠ 0)
    {page : RequestPage} (hpage : s.page filter cursor count = .ok page) :
    ∃ start, cursor.mapM Cursor.read = .ok start ∧ page = log.page filter start count := by
  cases hcursor : cursor.mapM Cursor.read with
  | ok start =>
    rw [page_eq log hledger filter hcursor hcount] at hpage
    exact ⟨start, rfl, (Except.ok.inj hpage).symm⟩
  | error e =>
    rw [Store.page, if_neg hcount, hledger, hcursor] at hpage
    cases hpage

theorem length_items_le (history : List (List WithdrawRequest)) {filter : RequestFilter}
    {cursor : Option String} {count : Int32} (hcount : count.toInt ≠ 0) {page : RequestPage}
    (hpage : (empty.ingest history).page filter cursor count = .ok page) :
    page.items.length ≤ count.toInt.natAbs := by
  obtain ⟨start, -, rfl⟩ := exists_start (ledger_ingest history) hcount hpage
  exact RequestLog.length_items_le _ filter start count

end Store

open RequestLog

/-- The way back in either direction. -/
theorem Store.page_again (history : List (List WithdrawRequest)) {filter : RequestFilter}
    {cursor : Option String} {d : Direction} {count more back : Int32}
    (hcount : count.toInt ≠ 0) (hd : Direction.ofCount count = d)
    (hmore : more.toInt ≠ 0) (hon : Direction.ofCount more = d)
    (hturn : back.toInt ≠ 0) (hback : Direction.ofCount back = d.opposite) {page : RequestPage}
    (hpage : (empty.ingest history).page filter cursor count = .ok page)
    (hsize : back.toInt.natAbs = page.items.length) (hitems : page.items ≠ [])
    (hover : d.isOver page = false) :
    ∃ next, (empty.ingest history).page filter (d.next page) more = .ok next ∧
      next.items ≠ [] ∧
      (empty.ingest history).page filter (d.opposite.next next) back = .ok page := by
  have h := after_sound history
  have hledger := ledger_ingest history
  obtain ⟨start, -, rfl⟩ := exists_start hledger hcount hpage
  subst hd
  rw [page_items_eq, List.length_map] at hsize
  rw [page_items_eq, Ne, List.map_eq_nil_iff] at hitems
  rw [isOver_page h filter start hcount, List.isEmpty_eq_false_iff] at hover
  obtain ⟨c, hc, hnext, hshown, f, hf, hreturn, hsame⟩ :=
    RequestLog.page_again h hcount hmore hon hback hsize hitems hover
  refine ⟨(after history).page filter (some (c : Int)) more, ?_, ?_, ?_⟩
  · rw [hnext]
    exact page_eq _ hledger filter (mapM_read_text h hc) hmore
  · rw [page_items_eq, Ne, List.map_eq_nil_iff]
    exact hshown
  · rw [hreturn, page_eq _ hledger filter (mapM_read_text h hf) hturn, hsame]

/-! ### Main result -/

section Counts

variable {k : Int32}

theorem toInt_neg_of_pos (hk : 0 < k.toInt) : (-k).toInt = -k.toInt := by
  have hlt := k.toInt_lt
  rw [Int32.toInt_neg, Int.bmod_eq_of_le]
  · omega
  · omega

/-- As many requests as a page shows can be asked for. -/
theorem toInt_ofNat_length (hk : 0 < k.toInt) {items : List WithdrawRequest} (hitems : items ≠ [])
    (hle : items.length ≤ k.toInt.natAbs) :
    (Int32.ofNat items.length).toInt = items.length ∧ 0 < (Int32.ofNat items.length).toInt := by
  have hlt := k.toInt_lt
  have hpos := List.length_pos_iff.mpr hitems
  have hsize : (Int32.ofNat items.length).toInt = items.length :=
    Int32.toInt_ofNat_of_lt (by omega)
  exact ⟨hsize, by omega⟩

theorem ofCount_pos (hk : 0 < k.toInt) : Direction.ofCount k = .older :=
  if_pos hk

theorem ofCount_neg (hk : 0 < k.toInt) : Direction.ofCount (-k) = .newer := by
  refine if_neg ?_
  rw [toInt_neg_of_pos hk]
  omega

end Counts

/-- **Way back**: whatever batches were offered to a fresh store, a reader who goes on from a page
that shows something and is not the last one sees something again; and from there as many requests
the other way round as the page showed are the page, in all that it says. -/
theorem paging_back_undoes_paging_on (history : List (List WithdrawRequest))
    (filter : RequestFilter) (cursor : Option String) (k m : Int32) (hk : 0 < k.toInt)
    (hm : 0 < m.toInt) :
    let s := Store.empty.ingest history
    (∀ page, s.page filter cursor k = .ok page → page.items ≠ [] → page.isEnd = false →
      ∃ next, s.page filter page.last m = .ok next ∧ next.items ≠ [] ∧
        s.page filter next.first (-Int32.ofNat page.items.length) = .ok page) ∧
    (∀ page, s.page filter cursor (-k) = .ok page → page.items ≠ [] → page.isStart = false →
      ∃ next, s.page filter page.first (-m) = .ok next ∧ next.items ≠ [] ∧
        s.page filter next.last (Int32.ofNat page.items.length) = .ok page) := by
  intro s
  -- A page shows no more than it was asked for, so its size is a count again.
  have hneg := toInt_neg_of_pos hk
  have hmneg := toInt_neg_of_pos hm
  constructor
  · intro page hpage hitems hend
    obtain ⟨hsize, hturn⟩ := toInt_ofNat_length hk hitems
      (Store.length_items_le history hk.ne' hpage)
    have hback := toInt_neg_of_pos hturn
    exact Store.page_again history hk.ne' (ofCount_pos hk) hm.ne' (ofCount_pos hm) (by omega)
      (ofCount_neg hturn) hpage (by omega) hitems hend
  · intro page hpage hitems hstart
    have hcount : (-k).toInt ≠ 0 := by omega
    have hle := Store.length_items_le history hcount hpage
    rw [hneg, Int.natAbs_neg] at hle
    obtain ⟨hsize, hturn⟩ := toInt_ofNat_length hk hitems hle
    exact Store.page_again history hcount (ofCount_neg hk) (by omega) (ofCount_neg hm) hturn.ne'
      (ofCount_pos hturn) hpage (by omega) hitems hstart

/-- Three requests: a reader of single requests goes on from the first page in either direction, and
back to it. -/
theorem paging_back_among_three_requests :
    (0 : Int) < (1 : Int32).toInt ∧
      (∃ page next, page.items = [openRequest 3] ∧ page.isEnd = false ∧
        (Store.empty.ingest [[openRequest 1, openRequest 2, openRequest 3]]).page
            ⟨FixedBytes.zero, none⟩ none 1 = .ok page ∧
        (Store.empty.ingest [[openRequest 1, openRequest 2, openRequest 3]]).page
            ⟨FixedBytes.zero, none⟩ page.last 1 = .ok next ∧
        (Store.empty.ingest [[openRequest 1, openRequest 2, openRequest 3]]).page
            ⟨FixedBytes.zero, none⟩ next.first (-1) = .ok page) ∧
      (∃ page next, page.items = [openRequest 1] ∧ page.isStart = false ∧
        (Store.empty.ingest [[openRequest 1, openRequest 2, openRequest 3]]).page
            ⟨FixedBytes.zero, none⟩ none (-1) = .ok page ∧
        (Store.empty.ingest [[openRequest 1, openRequest 2, openRequest 3]]).page
            ⟨FixedBytes.zero, none⟩ page.first (-1) = .ok next ∧
        (Store.empty.ingest [[openRequest 1, openRequest 2, openRequest 3]]).page
            ⟨FixedBytes.zero, none⟩ next.last 1 = .ok page) := by
  have hone : (0 : Int) < (1 : Int32).toInt := by decide
  obtain ⟨hon, hback⟩ := paging_back_undoes_paging_on
    [[openRequest 1, openRequest 2, openRequest 3]] ⟨FixedBytes.zero, none⟩ none 1 1 hone hone
  refine ⟨hone, ?_, ?_⟩
  · obtain ⟨next, hnext, -, hsame⟩ :=
      hon ⟨[openRequest 3], 3, some "0x3", some "0x3", true, false⟩ (by decide +kernel)
        (List.cons_ne_nil _ _) rfl
    exact ⟨_, next, rfl, rfl, by decide +kernel, hnext, hsame⟩
  · obtain ⟨next, hnext, -, hsame⟩ :=
      hback ⟨[openRequest 1], 3, some "0x1", some "0x1", false, true⟩ (by decide +kernel)
        (List.cons_ne_nil _ _) rfl
    exact ⟨_, next, rfl, rfl, by decide +kernel, hnext, hsame⟩

end OffChain
