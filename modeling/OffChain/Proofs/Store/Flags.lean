import OffChain.Proofs.Store.Walk

/-!
# The flags of a page

A page says whether there are newer requests than those it shows, and whether there are older ones.
What lies on a side of a page is what is beyond its last entry on that side; a page that shows
nothing has its cursor for an entry (`RequestLog.isOnSide`).

* `page_flags`: both flags are right, but for one case.  If nothing passes the filter and a cursor
  is given, the page claims that there are requests on the side that it is not read to.
* `empty_listing_not_at_start`: a fresh store, which is said to have newer requests.
-/

namespace OffChain

namespace RequestLog

variable {log : RequestLog} {filter : RequestFilter} {start : Option Int} {count : Int32}

/-- Whether a number lies on a side of a page that is read in some direction from a cursor: beyond
the last entry on that side.  If the page shows nothing, what lies beyond the cursor is on the side
that the page is read to, and everything else is on the other one: read to older ones from `c`,
older is below `c` and newer is at least `c`; read to newer ones, newer is above `c` and older is at
most `c`. -/
def isOnSide (side d : Direction) (start : Option Int) (window : List (Nat × WithdrawRequest))
    (seq : Nat) : Bool :=
  match side.edge window with
  | some e => side.isBeyond (some (e.1 : Int)) seq
  | none => if side = d then d.isBeyond start seq else start.all fun c => !d.isBeyond (some c) seq

/-- Whether a log has requests on a side of a page. -/
def hasOnSide (log : RequestLog) (side : Direction) (filter : RequestFilter) (start : Option Int)
    (count : Int32) : Bool :=
  (log.listing filter).any fun e =>
    isOnSide side (.ofCount count) start (log.window filter start count) e.1

/-- Whether a side of a page is the one that it is not read to from its cursor, and nothing passes
the filter. -/
def isBlindSide (log : RequestLog) (side : Direction) (filter : RequestFilter)
    (start : Option Int) (count : Int32) : Bool :=
  decide (side ≠ .ofCount count) && start.isSome && (log.listing filter).isEmpty

theorem mem_listing_of_mem_window {e : Nat × WithdrawRequest}
    (h : e ∈ log.window filter start count) : e ∈ log.listing filter := by
  rw [window, Direction.mem_orient] at h
  exact (mem_rest.mp (List.mem_of_mem_take h)).1

/-- A page shows nothing exactly if nothing lies beyond its cursor. -/
theorem window_eq_nil_iff (hcount : count.toInt ≠ 0) :
    log.window filter start count = []
      ↔ ∀ e ∈ log.listing filter, (Direction.ofCount count).isBeyond start e.1 = false := by
  rw [window_eq_nil hcount, List.eq_nil_iff_forall_not_mem]
  refine forall_congr' fun e => ?_
  rw [mem_rest, not_and, Bool.not_eq_true]

/-- The flag of a side of a page that shows something. -/
theorem isOver_of_ne_nil (side : Direction) (hwindow : log.window filter start count ≠ []) :
    side.isOver (log.page filter start count)
      = (!log.hasOnSide side filter start count && !log.isBlindSide side filter start count) := by
  obtain ⟨newest, oldest, hhead, hlast⟩ := exists_ends hwindow
  have hlisting : (log.listing filter).isEmpty = false := by
    have hmem := mem_listing_of_mem_window (List.mem_of_mem_head? hhead)
    rw [List.isEmpty_eq_false_iff]
    exact List.ne_nil_of_mem hmem
  rw [isBlindSide, hlisting, Bool.and_false, Bool.not_false, Bool.and_true, hasOnSide,
    page_of_ends hhead hlast]
  cases side with
  | older =>
    simp only [isOnSide, Direction.edge, hlast, Direction.isOver, Direction.isBeyond,
      Option.all_some, Int.ofNat_lt]
  | newer =>
    simp only [isOnSide, Direction.edge, hhead, Direction.isOver, Direction.isBeyond,
      Option.all_some, Int.ofNat_lt]

/-- The flag of a side of a page without requests. -/
theorem isOver_emptyPage (side : Direction) (total : Nat) (withCursor : Bool) :
    side.isOver (Store.emptyPage total (decide (0 < count.toInt)) withCursor)
      = (decide (side = .ofCount count) || !withCursor) := by
  unfold Direction.ofCount
  by_cases hpos : 0 < count.toInt
  · cases side <;> simp [Direction.isOver, Store.emptyPage, hpos]
  · cases side <;> simp [Direction.isOver, Store.emptyPage, hpos]

theorem isOnSide_nil (side d : Direction) (seq : Nat) :
    isOnSide side d start [] seq
      = if side = d then d.isBeyond start seq
        else start.all fun c => !d.isBeyond (some c) seq := by
  cases side <;> rfl

/-- The flag of a side of a page that shows nothing. -/
theorem isOver_of_nil (side : Direction) (hcount : count.toInt ≠ 0)
    (hwindow : log.window filter start count = []) :
    side.isOver (log.page filter start count)
      = (!log.hasOnSide side filter start count && !log.isBlindSide side filter start count) := by
  have hnone := (window_eq_nil_iff hcount).mp hwindow
  rw [page_of_empty hwindow, isOver_emptyPage, hasOnSide, isBlindSide, hwindow]
  simp only [isOnSide_nil]
  by_cases hside : side = .ofCount count
  · -- the page is empty because nothing is there
    have hany : (log.listing filter).any
        (fun e => (Direction.ofCount count).isBeyond start e.1) = false := by
      rw [List.any_eq_false]
      exact fun e he => Bool.not_eq_true _ ▸ hnone e he
    simp [hside, hany]
  · cases start with
    | none =>
      have hnothing : log.listing filter = [] := by
        refine List.eq_nil_iff_forall_not_mem.mpr fun e he => ?_
        have hall : (Direction.ofCount count).isBeyond none e.1 = true := by
          cases Direction.ofCount count <;> rfl
        rw [hnone e he] at hall
        cases hall
      simp [hnothing]
    | some c =>
      -- all that passes the filter is on this side
      cases hlisting : log.listing filter with
      | nil => simp [hside]
      | cons e rest =>
        have he := hnone e (hlisting ▸ List.mem_cons_self)
        simp [hside, he]

/-- **Flags**: the flag of a side says that nothing is there, and that is so, unless the side is a
blind one. -/
theorem isOver_eq (side : Direction) (hcount : count.toInt ≠ 0) :
    side.isOver (log.page filter start count)
      = (!log.hasOnSide side filter start count && !log.isBlindSide side filter start count) := by
  by_cases hwindow : log.window filter start count = []
  · exact isOver_of_nil side hcount hwindow
  · exact isOver_of_ne_nil side hwindow

end RequestLog

open RequestLog

/-- **Flags of pages**: whatever was offered to a fresh store, a page at any cursor says that it is
the start exactly if no request that passes the filter is newer than it, and that it is the end
exactly if none is older; but of the side that it is not read to from a cursor it says neither if
nothing passes the filter. -/
theorem page_flags (history : List (List WithdrawRequest)) (filter : RequestFilter)
    (cursor : Option String) (start : Option Int)
    (hcursor : cursor.mapM Store.Cursor.read = .ok start) (count : Int32)
    (hcount : count.toInt ≠ 0) :
    ∃ page, (Store.empty.ingest history).page filter cursor count = .ok page ∧
      page.items = ((after history).window filter start count).map Prod.snd ∧
      page.isStart = (!(after history).hasOnSide .newer filter start count
        && !(after history).isBlindSide .newer filter start count) ∧
      page.isEnd = (!(after history).hasOnSide .older filter start count
        && !(after history).isBlindSide .older filter start count) := by
  have hledger : (Store.empty.ingest history).ledger = some (after history).toLedger := by
    rw [Store.ingest_empty]
    rfl
  exact ⟨_, Store.page_eq (after history) hledger filter hcursor hcount, page_items_eq _ _ _ _,
    isOver_eq .newer hcount, isOver_eq .older hcount⟩

/-- The page at the cursor of the only request shows nothing; it is the end, and that request is
newer. -/
theorem page_flags_of_one_request :
    (some "0x1").mapM Store.Cursor.read = .ok (some 1) ∧ (5 : Int32).toInt ≠ 0 ∧
      ∃ page, (Store.empty.ingest [[openRequest 1]]).page ⟨FixedBytes.zero, none⟩ (some "0x1") 5
          = .ok page ∧
        page.items = [] ∧ page.isStart = false ∧ page.isEnd = true := by
  have hcursor : (some "0x1").mapM Store.Cursor.read = .ok (some 1) := by decide +kernel
  have hcount : (5 : Int32).toInt ≠ 0 := by decide
  obtain ⟨page, hpage, hitems, hstart, hend⟩ :=
    page_flags [[openRequest 1]] ⟨FixedBytes.zero, none⟩ (some "0x1") (some 1) hcursor 5 hcount
  refine ⟨hcursor, hcount, page, hpage, hitems.trans ?_, hstart.trans ?_, hend.trans ?_⟩
  · decide +kernel
  · decide +kernel
  · decide +kernel

/-- **Blindness**: a fresh store has no requests at all, but a page at a cursor says that there are
newer ones. -/
theorem empty_listing_not_at_start :
    ∃ page, Store.empty.page ⟨FixedBytes.zero, none⟩ (some "0x1") 5 = .ok page ∧
      Store.empty.ledger = some ⟨[], 0⟩ ∧ page.total = 0 ∧ page.isStart = false :=
  ⟨Store.emptyPage 0 true true, by decide +kernel, by decide +kernel, by decide +kernel, rfl⟩

end OffChain
