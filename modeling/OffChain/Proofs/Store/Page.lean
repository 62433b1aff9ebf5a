import OffChain.Proofs.Store.RequestLog

/-!
# Pages of a log

A page is read from a cursor in one of two directions, to older or to newer requests.  What a log
has for a filter in that direction is a list, nearest to the cursor first (`RequestLog.rest`), and
reading a page is taking the first requests off that list:

* `Store.page_eq`: a page of a store that holds a log is the page of the log.  It never fails.
* `RequestLog.page_items`, `RequestLog.isOver_page`: the page shows the first requests of the rest,
  and it is the last one exactly if nothing else is left.
* `RequestLog.exists_next_page`: otherwise its cursor leads to exactly what is left.
-/

namespace OffChain

/-- Which way a listing is read. -/
inductive Direction where
  /-- From newer requests to older ones. -/
  | older
  /-- From older requests to newer ones. -/
  | newer
deriving DecidableEq

namespace Direction

variable {α β : Type}

/-- The direction that a count asks for. -/
def ofCount (count : Int32) : Direction :=
  if 0 < count.toInt then older else newer

/-- A list that has the newest first in the order of reading, and the other way round. -/
def orient : Direction → List α → List α
  | older, xs => xs
  | newer, xs => xs.reverse

/-- The cursor that leads on from a page. -/
def next : Direction → RequestPage → Option String
  | older, p => p.last
  | newer, p => p.first

/-- Whether a page says that nothing lies beyond it. -/
def isOver : Direction → RequestPage → Bool
  | older, p => p.isEnd
  | newer, p => p.isStart

/-- Whether a number lies beyond a cursor. -/
def isBeyond (d : Direction) (start : Option Int) (seq : Nat) : Bool :=
  match d with
  | older => start.all fun c => decide ((seq : Int) < c)
  | newer => start.all fun c => decide (c < (seq : Int))

@[simp]
theorem orient_orient (d : Direction) (xs : List α) : d.orient (d.orient xs) = xs := by
  cases d with
  | older => rfl
  | newer => exact List.reverse_reverse xs

theorem orient_map (d : Direction) (f : α → β) (xs : List α) :
    d.orient (xs.map f) = (d.orient xs).map f := by
  cases d with
  | older => rfl
  | newer => exact List.map_reverse.symm

theorem orient_filter (d : Direction) (p : α → Bool) (xs : List α) :
    d.orient (xs.filter p) = (d.orient xs).filter p := by
  cases d with
  | older => rfl
  | newer => exact List.filter_reverse.symm

theorem orient_eq_nil (d : Direction) {xs : List α} : d.orient xs = [] ↔ xs = [] := by
  cases d with
  | older => rfl
  | newer => exact List.reverse_eq_nil_iff

theorem mem_orient {d : Direction} {a : α} {xs : List α} : a ∈ d.orient xs ↔ a ∈ xs := by
  cases d with
  | older => exact Iff.rfl
  | newer => exact List.mem_reverse

theorem length_orient (d : Direction) (xs : List α) : (d.orient xs).length = xs.length := by
  cases d with
  | older => rfl
  | newer => exact List.length_reverse

/-- The last entry of a page on a side, if the newest comes first. -/
def edge {α : Type} : Direction → List α → Option α
  | older, xs => xs.getLast?
  | newer, xs => xs.head?

theorem edge_orient (d : Direction) (xs : List α) : d.edge (d.orient xs) = xs.getLast? := by
  cases d with
  | older => rfl
  | newer => exact List.head?_reverse

/-- Beyond what lies beyond a cursor there is only what lies beyond the cursor too. -/
theorem isBeyond_trans {d : Direction} {start : Option Int} {i j : Nat}
    (hi : d.isBeyond start i) (hj : d.isBeyond (some (i : Int)) j) : d.isBeyond start j := by
  cases start with
  | none => cases d <;> rfl
  | some c =>
    cases d with
    | older =>
      simp only [isBeyond, Option.all_some, decide_eq_true_eq] at hi hj ⊢
      omega
    | newer =>
      simp only [isBeyond, Option.all_some, decide_eq_true_eq] at hi hj ⊢
      omega

theorem not_isBeyond_of_isBeyond {d : Direction} {i j : Nat} (h : d.isBeyond (some (i : Int)) j) :
    ¬d.isBeyond (some (j : Int)) i := by
  cases d with
  | older =>
    simp only [isBeyond, Option.all_some, decide_eq_true_eq] at h ⊢
    omega
  | newer =>
    simp only [isBeyond, Option.all_some, decide_eq_true_eq] at h ⊢
    omega

theorem not_isBeyond_self (d : Direction) (i : Nat) : ¬d.isBeyond (some (i : Int)) i :=
  fun h => not_isBeyond_of_isBeyond h h

end Direction

namespace RequestLog

/-! ### Listings -/

/-- The entries that a filter lets through, oldest first. -/
def listing (log : RequestLog) (filter : RequestFilter) : List (Nat × WithdrawRequest) :=
  log.entries.filter fun e => filter.admits e.2

/-- The requests that a filter lets through, oldest first. -/
def matching (log : RequestLog) (filter : RequestFilter) : List WithdrawRequest :=
  log.requests.filter filter.admits

theorem map_listing (log : RequestLog) (filter : RequestFilter) :
    (log.listing filter).map Prod.snd = log.matching filter := by
  rw [matching, requests, List.filter_map]
  rfl

theorem listing_ascending {log : RequestLog} (h : log.Sound) (filter : RequestFilter) :
    (log.listing filter).Pairwise fun d e => d.1 < e.1 :=
  h.ascending.filter _

/-- What lies before a reader who stands at a cursor, nearest first. -/
def rest (log : RequestLog) (d : Direction) (filter : RequestFilter) (start : Option Int) :
    List (Nat × WithdrawRequest) :=
  d.orient ((log.listing filter).filter fun e => d.isBeyond start e.1).reverse

theorem mem_rest {log : RequestLog} {d : Direction} {filter : RequestFilter} {start : Option Int}
    {e : Nat × WithdrawRequest} :
    e ∈ log.rest d filter start ↔ e ∈ log.listing filter ∧ d.isBeyond start e.1 := by
  cases d <;> simp [rest, Direction.orient]

/-- Each entry of the rest lies beyond the ones before it. -/
theorem rest_pairwise {log : RequestLog} (h : log.Sound) (d : Direction) (filter : RequestFilter)
    (start : Option Int) :
    (log.rest d filter start).Pairwise fun a b => d.isBeyond (some (a.1 : Int)) b.1 := by
  have hascending := (listing_ascending h filter).filter fun e => d.isBeyond start e.1
  cases d with
  | older =>
    refine List.pairwise_reverse.mpr (hascending.imp fun {a b} hab => ?_)
    simpa [Direction.isBeyond] using hab
  | newer =>
    rw [rest, Direction.orient, List.reverse_reverse]
    refine hascending.imp fun {a b} hab => ?_
    simpa [Direction.isBeyond] using hab

/-- Standing at an entry of the rest, a reader has before him what follows it there. -/
theorem rest_of_append {log : RequestLog} (h : log.Sound) {d : Direction} {filter : RequestFilter}
    {start : Option Int} {before after : List (Nat × WithdrawRequest)} {e : Nat × WithdrawRequest}
    (hrest : log.rest d filter start = before ++ e :: after) :
    log.rest d filter (some (e.1 : Int)) = after := by
  have hbeyond : d.isBeyond start e.1 := by
    have hmem : e ∈ log.rest d filter start := by simp [hrest]
    exact (mem_rest.mp hmem).2
  have hpairwise := rest_pairwise h d filter start
  rw [hrest, List.pairwise_append, List.pairwise_cons] at hpairwise
  obtain ⟨-, ⟨hafter, -⟩, hbefore⟩ := hpairwise
  -- Filtering by the nearer cursor first changes nothing, and then only the part behind `e` stays.
  have hsame : (log.listing filter).filter (fun a => d.isBeyond (some (e.1 : Int)) a.1)
      = ((log.listing filter).filter fun a => d.isBeyond start a.1).filter
          fun a => d.isBeyond (some (e.1 : Int)) a.1 := by
    rw [List.filter_filter]
    refine List.filter_congr fun a _ => ?_
    rw [Bool.eq_iff_iff, Bool.and_eq_true]
    exact ⟨fun ha => ⟨ha, Direction.isBeyond_trans hbeyond ha⟩, fun ha => ha.1⟩
  have hleft : before.filter (fun a => d.isBeyond (some (e.1 : Int)) a.1) = [] := by
    refine List.filter_eq_nil_iff.mpr fun a ha => ?_
    exact Direction.not_isBeyond_of_isBeyond (hbefore a ha e List.mem_cons_self)
  have hright : after.filter (fun a => d.isBeyond (some (e.1 : Int)) a.1) = after :=
    List.filter_eq_self.mpr hafter
  calc log.rest d filter (some (e.1 : Int))
      = (log.rest d filter start).filter fun a => d.isBeyond (some (e.1 : Int)) a.1 := by
        rw [rest, hsame, ← List.filter_reverse, Direction.orient_filter, rest]
    _ = after := by
        have hself : ¬d.isBeyond (some (e.1 : Int)) e.1 := d.not_isBeyond_self e.1
        rw [hrest, List.filter_append, List.filter_cons, if_neg hself, hleft, hright,
          List.nil_append]

/-! ### Pages -/

/-- The entries of a page, newest first. -/
def window (log : RequestLog) (filter : RequestFilter) (start : Option Int) (count : Int32) :
    List (Nat × WithdrawRequest) :=
  let d := Direction.ofCount count
  d.orient ((log.rest d filter start).take count.toInt.natAbs)

/-- The page that a count asks for at a cursor. -/
def page (log : RequestLog) (filter : RequestFilter) (start : Option Int) (count : Int32) :
    RequestPage :=
  let listing := log.listing filter
  let window := log.window filter start count
  match window.head?, window.getLast? with
  | some newest, some oldest =>
    { items := window.map Prod.snd
      total := UInt64.ofNat listing.length
      first := some (Store.Cursor.text newest.1)
      last := some (Store.Cursor.text oldest.1)
      isStart := !listing.any fun e => decide (newest.1 < e.1)
      isEnd := !listing.any fun e => decide (e.1 < oldest.1) }
  | _, _ => Store.emptyPage listing.length (decide (0 < count.toInt)) start.isSome

end RequestLog

namespace Store

open RequestLog

theorem filter_matchesFilter (log : RequestLog) (filter : RequestFilter) :
    log.toLedger.rows.filter (RequestRow.matchesFilter filter)
      = (log.listing filter).map fun e => RequestRow.ofRequest e.1 e.2 := by
  rw [toLedger, List.filter_map, listing]
  simp only [Function.comp_def, RequestRow.matchesFilter_ofRequest]

theorem selectPage_listing (log : RequestLog) (filter : RequestFilter) (start : Option Int)
    (count : Int32) :
    selectPage ((log.listing filter).map fun e => RequestRow.ofRequest e.1 e.2) start count
      = (log.window filter start count).map fun e => RequestRow.ofRequest e.1 e.2 := by
  unfold selectPage window
  by_cases hcount : 0 < count.toInt
  · have hd : Direction.ofCount count = .older := if_pos hcount
    rw [hd]
    simp only [hcount, if_true, List.filter_map, Function.comp_def, ← List.map_reverse,
      ← List.map_take]
    rfl
  · have hd : Direction.ofCount count = .newer := if_neg hcount
    rw [hd]
    simp only [hcount, if_false, List.filter_map, Function.comp_def, ← List.map_reverse,
      ← List.map_take, RequestLog.rest, Direction.orient, List.reverse_reverse]
    rfl

/-- **Pages**: a store that holds a log shows the pages of the log. -/
theorem page_eq (log : RequestLog) {s : Store} (hledger : s.ledger = some log.toLedger)
    (filter : RequestFilter) {cursor : Option String} {start : Option Int}
    (hcursor : cursor.mapM Cursor.read = .ok start) {count : Int32} (hcount : count.toInt ≠ 0) :
    s.page filter cursor count = .ok (log.page filter start count) := by
  rw [Store.page, if_neg hcount, hledger, hcursor]
  show readPage (log.toLedger.rows.filter (RequestRow.matchesFilter filter)) start count = _
  rw [filter_matchesFilter, readPage, selectPage_listing, RequestRow.decodeAll_ofRequest]
  show Except.ok (pageOf _ _ _ _ _) = _
  congr 1
  unfold pageOf RequestLog.page
  simp only [List.head?_map, List.getLast?_map]
  cases (log.window filter start count).head? with
  | none => simp
  | some newest =>
    cases (log.window filter start count).getLast? with
    | none => simp
    | some oldest => simp [RequestRow.ofRequest, Function.comp_def]

end Store

namespace RequestLog

/-! ### What a page leaves -/

variable {log : RequestLog} {filter : RequestFilter} {start : Option Int} {count : Int32}

theorem page_of_ends {newest oldest : Nat × WithdrawRequest}
    (hhead : (log.window filter start count).head? = some newest)
    (hlast : (log.window filter start count).getLast? = some oldest) :
    log.page filter start count =
      { items := (log.window filter start count).map Prod.snd
        total := UInt64.ofNat (log.listing filter).length
        first := some (Store.Cursor.text newest.1)
        last := some (Store.Cursor.text oldest.1)
        isStart := !(log.listing filter).any fun e => decide (newest.1 < e.1)
        isEnd := !(log.listing filter).any fun e => decide (e.1 < oldest.1) } := by
  simp only [page, hhead, hlast]

theorem page_of_empty (hwindow : log.window filter start count = []) :
    log.page filter start count
      = Store.emptyPage (log.listing filter).length (decide (0 < count.toInt)) start.isSome := by
  unfold page
  rw [hwindow]
  rfl

theorem exists_ends {α : Type} {xs : List α} (h : xs ≠ []) :
    ∃ a b, xs.head? = some a ∧ xs.getLast? = some b :=
  ⟨xs.head h, xs.getLast h, List.head?_eq_some_head h, List.getLast?_eq_some_getLast h⟩

/-- The cursors of a page are those of the ends of its window. -/
theorem next_page (log : RequestLog) (d : Direction) (filter : RequestFilter) (start : Option Int)
    (count : Int32) :
    d.next (log.page filter start count)
      = (d.edge (log.window filter start count)).map fun e => Store.Cursor.text e.1 := by
  by_cases hwindow : log.window filter start count = []
  · rw [page_of_empty hwindow, hwindow]
    cases d <;> rfl
  · obtain ⟨newest, oldest, hhead, hlast⟩ := exists_ends hwindow
    rw [page_of_ends hhead hlast]
    cases d with
    | older =>
      rw [Direction.edge, hlast]
      rfl
    | newer =>
      rw [Direction.edge, hhead]
      rfl

/-- A page shows the requests of its window. -/
theorem page_items_eq (log : RequestLog) (filter : RequestFilter) (start : Option Int)
    (count : Int32) :
    (log.page filter start count).items = (log.window filter start count).map Prod.snd := by
  by_cases hwindow : log.window filter start count = []
  · rw [page_of_empty hwindow, hwindow]
    rfl
  · obtain ⟨newest, oldest, hhead, hlast⟩ := exists_ends hwindow
    rw [page_of_ends hhead hlast]

/-- These are the first requests of what lies before the reader. -/
theorem page_items (log : RequestLog) (filter : RequestFilter) (start : Option Int)
    (count : Int32) :
    (Direction.ofCount count).orient (log.page filter start count).items
      = ((log.rest (.ofCount count) filter start).take count.toInt.natAbs).map Prod.snd := by
  rw [page_items_eq, window, Direction.orient_map, Direction.orient_orient]

theorem take_eq_nil_iff (hcount : count.toInt ≠ 0) {entries : List (Nat × WithdrawRequest)} :
    entries.take count.toInt.natAbs = [] ↔ entries = [] := by
  have hsize : count.toInt.natAbs ≠ 0 := fun h => hcount (Int.natAbs_eq_zero.mp h)
  rw [List.take_eq_nil_iff, or_iff_right hsize]

/-- A page shows nothing exactly if there is nothing before the reader. -/
theorem window_eq_nil (hcount : count.toInt ≠ 0) :
    log.window filter start count = [] ↔ log.rest (.ofCount count) filter start = [] := by
  rw [window, Direction.orient_eq_nil, take_eq_nil_iff hcount]

/-- What a page says of itself, if its last entry in the direction of reading is known. -/
theorem page_of_take {before : List (Nat × WithdrawRequest)} {e : Nat × WithdrawRequest}
    (htake : (log.rest (.ofCount count) filter start).take count.toInt.natAbs = before ++ [e]) :
    (Direction.ofCount count).next (log.page filter start count)
        = some (Store.Cursor.text e.1) ∧
      (Direction.ofCount count).isOver (log.page filter start count)
        = (log.rest (.ofCount count) filter (some (e.1 : Int))).isEmpty := by
  have hwindow : log.window filter start count
      = (Direction.ofCount count).orient (before ++ [e]) := by
    rw [window, htake]
  have hedge : (Direction.ofCount count).edge (log.window filter start count) = some e := by
    rw [hwindow, Direction.edge_orient, List.getLast?_concat]
  have hne : log.window filter start count ≠ [] := by
    rw [hwindow, Ne, Direction.orient_eq_nil]
    simp
  refine ⟨by rw [next_page, hedge, Option.map_some], ?_⟩
  obtain ⟨newest, oldest, hhead, hlast⟩ := exists_ends hne
  rw [page_of_ends hhead hlast, Bool.eq_iff_iff]
  cases hd : Direction.ofCount count with
  | older =>
    rw [hd, Direction.edge, hlast, Option.some.injEq] at hedge
    simp [hedge, Direction.isOver, rest, Direction.orient, Direction.isBeyond]
  | newer =>
    rw [hd, Direction.edge, hhead, Option.some.injEq] at hedge
    simp [hedge, Direction.isOver, rest, Direction.orient, Direction.isBeyond]

/-- The entries that a page shows end with one, unless there is nothing before the reader. -/
theorem exists_take (hcount : count.toInt ≠ 0) {entries : List (Nat × WithdrawRequest)}
    (hne : entries ≠ []) :
    ∃ before e, entries.take count.toInt.natAbs = before ++ [e] := by
  have htake : entries.take count.toInt.natAbs ≠ [] := mt (take_eq_nil_iff hcount).mp hne
  exact ⟨_, _, (List.dropLast_concat_getLast htake).symm⟩

/-- A page is the last one exactly if it leaves nothing. -/
theorem isOver_page (h : log.Sound) (filter : RequestFilter) (start : Option Int)
    (hcount : count.toInt ≠ 0) :
    (Direction.ofCount count).isOver (log.page filter start count)
      = ((log.rest (.ofCount count) filter start).drop count.toInt.natAbs).isEmpty := by
  by_cases hrest : log.rest (.ofCount count) filter start = []
  · rw [page_of_empty ((window_eq_nil hcount).mpr hrest), hrest, List.drop_nil]
    by_cases hpos : 0 < count.toInt
    · rw [Direction.ofCount, if_pos hpos]
      simp [Direction.isOver, Store.emptyPage, hpos]
    · rw [Direction.ofCount, if_neg hpos]
      simp [Direction.isOver, Store.emptyPage, hpos]
  · obtain ⟨before, e, htake⟩ := exists_take hcount hrest
    have hsplit := List.take_append_drop count.toInt.natAbs (log.rest (.ofCount count) filter start)
    rw [htake, List.append_assoc, List.singleton_append] at hsplit
    rw [(page_of_take htake).2, rest_of_append h hsplit.symm]

/-- The cursor of a page leads to what it leaves. -/
theorem exists_next_page (h : log.Sound) (hcount : count.toInt ≠ 0)
    (hrest : log.rest (.ofCount count) filter start ≠ []) :
    ∃ c ≤ log.lastSeq,
      (Direction.ofCount count).next (log.page filter start count) = some (Store.Cursor.text c) ∧
      log.rest (.ofCount count) filter (some (c : Int))
        = (log.rest (.ofCount count) filter start).drop count.toInt.natAbs := by
  obtain ⟨before, e, htake⟩ := exists_take hcount hrest
  have hsplit := List.take_append_drop count.toInt.natAbs (log.rest (.ofCount count) filter start)
  rw [htake, List.append_assoc, List.singleton_append] at hsplit
  have hmem : e ∈ log.rest (.ofCount count) filter start :=
    List.mem_of_mem_take (htake ▸ List.mem_append_right before (List.mem_singleton_self e))
  have hle : e.1 ≤ log.lastSeq := h.seq_le e (List.mem_filter.mp (mem_rest.mp hmem).1).1
  exact ⟨e.1, hle, (page_of_take htake).1, rest_of_append h hsplit.symm⟩

end RequestLog

end OffChain
