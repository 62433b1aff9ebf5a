import Mathlib.Data.List.Nodup
import Mathlib.Tactic.Set
import OffChain.Proofs.Store.Page

/-!
# Walking through a listing

A reader walks through a listing by asking for one page after the other, each time from the cursor
of the page before, until a page says that nothing lies beyond it.  Between two pages others offer
batches of requests, some of which fail.

* `cursor_walks_show_each_request_once`: a walk to older requests ends and shows exactly the
  requests that were there at its first page; a walk to newer requests ends and shows exactly those
  that are there at its last page.

The first walk keeps what lies before the reader: new requests have greater numbers than every
cursor that was given out.  The second one keeps that what was shown and what lies before the reader
make up the whole listing; it ends because numbers do.
-/

namespace OffChain

/-- What a reader asks for on one visit, and the batches that are offered before the next one. -/
structure Visit where
  /-- The number of requests that are asked for, negative for newer ones. -/
  count : Int32
  /-- The batches, first one first. -/
  arrivals : List (List WithdrawRequest)

/-- The first visits of a reader. -/
def firstVisits (visits : Nat → Visit) (n : Nat) : List Visit :=
  (List.range n).map visits

/-- The batches that are offered after the first visits of a reader. -/
def firstArrivals (visits : Nat → Visit) (n : Nat) : List (List WithdrawRequest) :=
  (firstVisits visits n).flatMap Visit.arrivals

theorem firstVisits_succ (visits : Nat → Visit) (n : Nat) :
    firstVisits visits (n + 1) = visits 0 :: firstVisits (fun i => visits (i + 1)) n := by
  rw [firstVisits, List.range_succ_eq_map, List.map_cons, List.map_map]
  rfl

theorem firstArrivals_succ (visits : Nat → Visit) (n : Nat) :
    firstArrivals visits (n + 1)
      = (visits 0).arrivals ++ firstArrivals (fun i => visits (i + 1)) n := by
  rw [firstArrivals, firstVisits_succ, List.flatMap_cons]
  rfl

/-- The pages that a reader sees who follows the cursors until a page is the last one. -/
def Store.walk (d : Direction) (filter : RequestFilter) :
    Store → Option String → List Visit → Except StoreError (List RequestPage)
  | _, _, [] => .ok []
  | s, cursor, visit :: visits => do
    let page ← s.page filter cursor visit.count
    if d.isOver page then .ok [page]
    else do
      let pages ← (s.ingest visit.arrivals).walk d filter (d.next page) visits
      .ok (page :: pages)

/-! ### Growth of the rest -/

namespace RequestLog

/-- What comes later lies behind a reader who goes to older requests. -/
theorem rest_older_of_extends {later log : RequestLog} (h : later.Extends log)
    (filter : RequestFilter) {c : Nat} (hc : c ≤ log.lastSeq) :
    later.rest .older filter (some (c : Int)) = log.rest .older filter (some (c : Int)) := by
  obtain ⟨-, added, heq, hnew⟩ := h
  have hnone : (added.filter fun e => filter.admits e.2).filter
      (fun e => Direction.older.isBeyond (some (c : Int)) e.1) = [] := by
    refine List.filter_eq_nil_iff.mpr fun e he => ?_
    have hlt := hnew e (List.mem_filter.mp he).1
    simp only [Direction.isBeyond, Option.all_some, decide_eq_true_eq]
    omega
  rw [rest, listing, heq, List.filter_append, List.filter_append, hnone, List.append_nil]
  rfl

/-- What comes later lies before a reader who goes to newer requests, at the end. -/
theorem rest_newer_of_extends {later log : RequestLog} (h : later.Extends log)
    (filter : RequestFilter) {c : Nat} (hc : c ≤ log.lastSeq) :
    ∃ added, later.listing filter = log.listing filter ++ added ∧
      later.rest .newer filter (some (c : Int))
        = log.rest .newer filter (some (c : Int)) ++ added := by
  obtain ⟨-, added, heq, hnew⟩ := h
  have hall : (added.filter fun e => filter.admits e.2).filter
      (fun e => Direction.newer.isBeyond (some (c : Int)) e.1)
        = added.filter fun e => filter.admits e.2 := by
    refine List.filter_eq_self.mpr fun e he => ?_
    have hlt := hnew e (List.mem_filter.mp he).1
    simp only [Direction.isBeyond, Option.all_some, decide_eq_true_eq]
    omega
  refine ⟨added.filter fun e => filter.admits e.2, ?_, ?_⟩
  · rw [listing, heq, List.filter_append, listing]
  · simp only [rest, Direction.orient, List.reverse_reverse]
    rw [listing, heq, List.filter_append, List.filter_append, hall, listing]

/-! ### One page of a walk -/

/-- A walk through a log comes to its end with these pages. -/
structure WalkEnds (d : Direction) (filter : RequestFilter) (log : RequestLog)
    (cursor : Option String) (visits : Nat → Visit) (n : Nat) (pages : List RequestPage) :
    Prop where
  /-- The reader sees them on the first visits. -/
  walk_eq : (Store.ofLog log).walk d filter cursor (firstVisits visits (n + 1)) = .ok pages
  /-- There is one for every visit. -/
  length_eq : pages.length = n + 1
  /-- The last one says that nothing lies beyond it. -/
  isOver : pages.getLast?.any d.isOver = true

variable {log : RequestLog} {d : Direction} {filter : RequestFilter} {cursor : Option String}
  {start : Option Int} {visits : Nat → Visit}

/-- A page that leaves nothing ends the walk. -/
theorem walkEnds_of_drop_eq_nil (h : log.Sound)
    (hcursor : cursor.mapM Store.Cursor.read = .ok start) (hcount : (visits 0).count.toInt ≠ 0)
    (hd : Direction.ofCount (visits 0).count = d)
    (hleft : (log.rest d filter start).drop (visits 0).count.toInt.natAbs = []) :
    WalkEnds d filter log cursor visits 0 [log.page filter start (visits 0).count] := by
  have hover : d.isOver (log.page filter start (visits 0).count) = true := by
    rw [← hd, isOver_page h filter start hcount, hd, hleft]
    rfl
  refine ⟨?_, rfl, hover⟩
  rw [firstVisits_succ, Store.walk, Store.page_eq log rfl filter hcursor hcount]
  show (if d.isOver (log.page filter start (visits 0).count) = true then _ else _) = _
  rw [if_pos hover]

/-- From a page that leaves something the walk goes on with exactly that. -/
theorem walkEnds_of_drop_ne_nil (h : log.Sound)
    (hcursor : cursor.mapM Store.Cursor.read = .ok start) (hcount : (visits 0).count.toInt ≠ 0)
    (hd : Direction.ofCount (visits 0).count = d)
    (hleft : (log.rest d filter start).drop (visits 0).count.toInt.natAbs ≠ []) :
    ∃ c ≤ log.lastSeq,
      log.rest d filter (some (c : Int))
        = (log.rest d filter start).drop (visits 0).count.toInt.natAbs ∧
      ∀ n pages,
        WalkEnds d filter ((visits 0).arrivals.foldl take log) (some (Store.Cursor.text c))
          (fun i => visits (i + 1)) n pages →
        WalkEnds d filter log cursor visits (n + 1)
          (log.page filter start (visits 0).count :: pages) := by
  have hrest : log.rest d filter start ≠ [] := by
    intro hnil
    rw [hnil, List.drop_nil] at hleft
    exact hleft rfl
  have hover : ¬d.isOver (log.page filter start (visits 0).count) = true := by
    rw [← hd, isOver_page h filter start hcount, hd, List.isEmpty_iff]
    exact hleft
  subst hd
  obtain ⟨c, hc, hnext, hdrop⟩ := exists_next_page h hcount hrest
  refine ⟨c, hc, hdrop, ?_⟩
  rintro n pages ⟨hwalk, hlength, hlast⟩
  refine ⟨?_, congrArg Nat.succ hlength, ?_⟩
  · rw [firstVisits_succ, Store.walk, Store.page_eq log rfl filter hcursor hcount]
    show (if _ then _ else _ >>= _) = _
    rw [if_neg hover, Store.ingest_ofLog h, hnext, hwalk]
    rfl
  · have hne : pages ≠ [] := List.ne_nil_of_length_eq_add_one hlength
    rw [List.getLast?_cons_of_ne_nil hne]
    exact hlast

theorem mapM_read_text (h : log.Sound) {c : Nat} (hc : c ≤ log.lastSeq) :
    (some (Store.Cursor.text c)).mapM Store.Cursor.read = .ok (some (c : Int)) := by
  rw [Option.mapM_some, Store.Cursor.read_text (hc.trans h.lastSeq_le)]
  rfl

/-- The requests of a page and those that it leaves are the ones that lay before the reader. -/
theorem page_items_append (log : RequestLog) (filter : RequestFilter) (start : Option Int)
    (count : Int32) :
    (Direction.ofCount count).orient (log.page filter start count).items
        ++ ((log.rest (.ofCount count) filter start).drop count.toInt.natAbs).map Prod.snd
      = (log.rest (.ofCount count) filter start).map Prod.snd := by
  rw [page_items, ← List.map_append, List.take_append_drop]

theorem length_drop_lt {α : Type} {xs : List α} {count : Int32} (hcount : count.toInt ≠ 0)
    (hleft : xs.drop count.toInt.natAbs ≠ []) :
    (xs.drop count.toInt.natAbs).length < xs.length := by
  have hpos : 0 < (xs.drop count.toInt.natAbs).length := List.length_pos_iff.mpr hleft
  rw [List.length_drop] at hpos ⊢
  omega

theorem length_matching_le (h : log.Sound) (filter : RequestFilter) :
    (log.matching filter).length ≤ Store.maxInteger := by
  have hle : (log.matching filter).length ≤ log.entries.length := by
    rw [← map_listing, List.length_map]
    exact List.length_filter_le _ _
  exact hle.trans (h.length_le.trans h.lastSeq_le)

/-! ### Walks to older requests -/

/-- A walk to older requests ends, and shows what lay before the reader when it began. -/
theorem exists_walk_older (filter : RequestFilter) {log : RequestLog} (h : log.Sound)
    {cursor : Option String} {start : Option Int}
    (hcursor : cursor.mapM Store.Cursor.read = .ok start) (visits : Nat → Visit)
    (hvisits : ∀ i, 0 < (visits i).count.toInt) :
    ∃ n pages,
      WalkEnds .older filter log cursor visits n pages ∧
      pages.flatMap RequestPage.items = (log.rest .older filter start).map Prod.snd := by
  -- By induction on how much lies before the reader: every page shows some of it.
  induction hsize : (log.rest .older filter start).length using Nat.strong_induction_on
    generalizing log cursor start visits with
  | _ size ih =>
  have hcount : (visits 0).count.toInt ≠ 0 := Int.ne_of_gt (hvisits 0)
  have hd : Direction.ofCount (visits 0).count = .older := if_pos (hvisits 0)
  have hitems := page_items_append log filter start (visits 0).count
  rw [hd] at hitems
  by_cases hleft : (log.rest .older filter start).drop (visits 0).count.toInt.natAbs = []
  · rw [hleft, List.map_nil, List.append_nil] at hitems
    refine ⟨0, _, walkEnds_of_drop_eq_nil h hcursor hcount hd hleft, ?_⟩
    rw [List.flatMap_singleton]
    exact hitems
  · obtain ⟨c, hc, hdrop, hwalk⟩ := walkEnds_of_drop_ne_nil h hcursor hcount hd hleft
    have hsound := foldl_take_sound h (visits 0).arrivals
    have hextends := foldl_take_extends (visits 0).arrivals log
    set later := (visits 0).arrivals.foldl take log
    have hrest : later.rest .older filter (some (c : Int))
        = (log.rest .older filter start).drop (visits 0).count.toInt.natAbs := by
      rw [rest_older_of_extends hextends filter hc, hdrop]
    have hsmaller : (later.rest .older filter (some (c : Int))).length < size := by
      rw [hrest, ← hsize]
      exact length_drop_lt hcount hleft
    obtain ⟨n, pages, hends, hshown⟩ := ih _ hsmaller hsound
      (mapM_read_text hsound (hc.trans hextends.1)) (fun i => visits (i + 1))
      (fun i => hvisits (i + 1)) rfl
    refine ⟨n + 1, _, hwalk n pages hends, ?_⟩
    rw [List.flatMap_cons, hshown, hrest]
    exact hitems

/-! ### Walks to newer requests -/

/-- A walk to newer requests ends, and shows all that was not shown before it began. -/
theorem exists_walk_newer (filter : RequestFilter) {log : RequestLog} (h : log.Sound)
    {cursor : Option String} {start : Option Int}
    (hcursor : cursor.mapM Store.Cursor.read = .ok start) {shown : List WithdrawRequest}
    (hshown : shown ++ (log.rest .newer filter start).map Prod.snd = log.matching filter)
    (visits : Nat → Visit) (hvisits : ∀ i, (visits i).count.toInt < 0) :
    ∃ n pages,
      WalkEnds .newer filter log cursor visits n pages ∧
      shown ++ pages.flatMap (fun p => p.items.reverse)
        = ((firstArrivals visits n).foldl take log).matching filter := by
  -- By induction on how many numbers are left for requests that were not shown yet: every page
  -- that is not the last one shows some request, and each request shown has a number of its own.
  induction hroom : Store.maxInteger - shown.length using Nat.strong_induction_on
    generalizing log cursor start shown visits with
  | _ room ih =>
  have hcount : (visits 0).count.toInt ≠ 0 := Int.ne_of_lt (hvisits 0)
  have hd : Direction.ofCount (visits 0).count = .newer :=
    if_neg (Int.not_lt.mpr (Int.le_of_lt (hvisits 0)))
  have hitems := page_items_append log filter start (visits 0).count
  rw [hd] at hitems
  by_cases hleft : (log.rest .newer filter start).drop (visits 0).count.toInt.natAbs = []
  · rw [hleft, List.map_nil, List.append_nil] at hitems
    refine ⟨0, _, walkEnds_of_drop_eq_nil h hcursor hcount hd hleft, ?_⟩
    show _ = log.matching filter
    rw [List.flatMap_singleton, ← hshown]
    exact congrArg (shown ++ ·) hitems
  · obtain ⟨c, hc, hdrop, hwalk⟩ := walkEnds_of_drop_ne_nil h hcursor hcount hd hleft
    have hsound := foldl_take_sound h (visits 0).arrivals
    have hextends := foldl_take_extends (visits 0).arrivals log
    set later := (visits 0).arrivals.foldl take log
    obtain ⟨added, hlisting, hrest⟩ := rest_newer_of_extends hextends filter hc
    set items := (log.page filter start (visits 0).count).items.reverse with hitems_def
    have hsplit : log.matching filter
        = shown ++ (items ++ ((log.rest .newer filter start).drop
          (visits 0).count.toInt.natAbs).map Prod.snd) := by
      rw [← hshown, ← hitems]
      rfl
    have hshown' : (shown ++ items) ++ (later.rest .newer filter (some (c : Int))).map Prod.snd
        = later.matching filter := by
      rw [← map_listing, hlisting, List.map_append, map_listing, hsplit, hrest, hdrop,
        List.map_append, List.append_assoc, List.append_assoc, List.append_assoc]
    have hless : Store.maxInteger - (shown ++ items).length < room := by
      have hbound := length_matching_le h filter
      have hdropped := length_drop_lt hcount hleft
      have hrested := congrArg List.length hitems
      have hmatched := congrArg List.length hshown
      simp only [Direction.orient, List.length_append, List.length_map, ← hitems_def] at *
      omega
    obtain ⟨n, pages, hends, hall⟩ := ih _ hless hsound
      (mapM_read_text hsound (hc.trans hextends.1)) hshown' (fun i => visits (i + 1))
      (fun i => hvisits (i + 1)) rfl
    refine ⟨n + 1, _, hwalk n pages hends, ?_⟩
    rw [List.flatMap_cons, ← List.append_assoc, hall, firstArrivals_succ, List.foldl_append]

theorem rest_none (log : RequestLog) (d : Direction) (filter : RequestFilter) :
    log.rest d filter none = d.orient (log.listing filter).reverse := by
  have hall : (log.listing filter).filter (fun e => d.isBeyond none e.1) = log.listing filter :=
    List.filter_eq_self.mpr fun e _ => by cases d <;> rfl
  rw [rest, hall]

theorem after_append (batches more : List (List WithdrawRequest)) :
    after (batches ++ more) = more.foldl take (after batches) := by
  rw [after, List.foldl_append, after]

end RequestLog

open RequestLog

/-- **Walks are complete**: whatever batches were offered to a fresh store and whatever batches are
offered between the pages, a walk with positive counts ends after finitely many pages and shows
exactly the requests that the filter let through at its first page, newest first and each of them
once, and none that came later; a walk with negative counts ends after finitely many pages and shows
exactly those that the filter lets through at its last page, each of them once and, its pages read
from their ends, oldest first. -/
theorem cursor_walks_show_each_request_once (history : List (List WithdrawRequest))
    (filter : RequestFilter) (visits : Nat → Visit) :
    ((∀ i, 0 < (visits i).count.toInt) →
      ∃ n pages,
        (Store.empty.ingest history).walk .older filter none (firstVisits visits (n + 1))
          = .ok pages ∧
        pages.length = n + 1 ∧ pages.getLast?.any RequestPage.isEnd = true ∧
        pages.flatMap RequestPage.items = ((after history).matching filter).reverse ∧
        (pages.flatMap RequestPage.items).Nodup ∧
        ∀ r ∈ (after (history ++ firstArrivals visits n)).requests,
          r ∉ (after history).requests → r ∉ pages.flatMap RequestPage.items) ∧
    ((∀ i, (visits i).count.toInt < 0) →
      ∃ n pages,
        (Store.empty.ingest history).walk .newer filter none (firstVisits visits (n + 1))
          = .ok pages ∧
        pages.length = n + 1 ∧ pages.getLast?.any RequestPage.isStart = true ∧
        pages.flatMap (fun p => p.items.reverse)
          = (after (history ++ firstArrivals visits n)).matching filter ∧
        (pages.flatMap fun p => p.items.reverse).Nodup) := by
  have h := after_sound history
  have hstart : (none : Option String).mapM Store.Cursor.read = .ok none := rfl
  rw [Store.ingest_empty]
  constructor
  · intro hvisits
    obtain ⟨n, pages, ⟨hpages, hlength, hlast⟩, hshown⟩ :=
      exists_walk_older filter h hstart visits hvisits
    rw [rest_none, Direction.orient, List.map_reverse, map_listing] at hshown
    refine ⟨n, pages, hpages, hlength, hlast, hshown, ?_, ?_⟩
    · rw [hshown, List.nodup_reverse]
      exact (requests_nodup h).filter _
    · intro r _ hnew hmem
      rw [hshown, List.mem_reverse] at hmem
      exact hnew (List.mem_filter.mp hmem).1
  · intro hvisits
    have hall : [] ++ ((after history).rest .newer filter none).map Prod.snd
        = (after history).matching filter := by
      rw [rest_none, Direction.orient, List.reverse_reverse, map_listing, List.nil_append]
    obtain ⟨n, pages, ⟨hpages, hlength, hlast⟩, hshown⟩ :=
      exists_walk_newer filter h hstart hall visits hvisits
    rw [List.nil_append, ← after_append] at hshown
    refine ⟨n, pages, hpages, hlength, hlast, hshown, ?_⟩
    rw [hshown]
    exact (requests_nodup (after_sound _)).filter _

/-- An open request of one delegator. -/
def openRequest (id : UInt256) : WithdrawRequest :=
  ⟨id, FixedBytes.zero, 1, 1000000, 1700000000, none⟩

/-- Three requests, one of them offered twice, are walked through in both directions while a fourth
one comes in after every page. -/
theorem cursor_walks_of_three_requests :
    ((0 : Int) < (2 : Int32).toInt ∧
      ∃ n pages,
        (Store.empty.ingest [[openRequest 1, openRequest 2], [openRequest 2, openRequest 3]]).walk
          .older ⟨FixedBytes.zero, none⟩ none
          (firstVisits (fun _ => ⟨2, [[openRequest 4]]⟩) (n + 1)) = .ok pages ∧
        pages.flatMap RequestPage.items = [openRequest 3, openRequest 2, openRequest 1]) ∧
    ((-2 : Int32).toInt < 0 ∧
      ∃ n pages,
        (Store.empty.ingest [[openRequest 1, openRequest 2], [openRequest 2, openRequest 3]]).walk
          .newer ⟨FixedBytes.zero, none⟩ none
          (firstVisits (fun _ => ⟨-2, [[openRequest 4]]⟩) (n + 1)) = .ok pages ∧
        pages.flatMap (fun p => p.items.reverse)
          = (after ([[openRequest 1, openRequest 2], [openRequest 2, openRequest 3]]
              ++ firstArrivals (fun _ => ⟨-2, [[openRequest 4]]⟩) n)).matching
            ⟨FixedBytes.zero, none⟩) := by
  have hwalks (count : Int32) := cursor_walks_show_each_request_once
    [[openRequest 1, openRequest 2], [openRequest 2, openRequest 3]] ⟨FixedBytes.zero, none⟩
    fun _ => ⟨count, [[openRequest 4]]⟩
  refine ⟨⟨by decide, ?_⟩, ⟨by decide, ?_⟩⟩
  · obtain ⟨n, pages, hpages, -, -, hshown, -⟩ := (hwalks 2).1 fun _ => by decide
    exact ⟨n, pages, hpages, hshown.trans (by decide)⟩
  · obtain ⟨n, pages, hpages, -, -, hshown, -⟩ := (hwalks (-2)).2 fun _ => by decide
    exact ⟨n, pages, hpages, hshown⟩

end OffChain
