import OffChain.Proofs.Store.Ingestion
import OffChain.Proofs.Store.Walk

/-!
# Pages are windows

A page shows what is next to its cursor: on the way to older or to newer requests, the reader passes
by what does not lie beyond the cursor, is shown as many requests as he asked for, or all that there
are, and leaves the others (`RequestLog.exists_passed`).  Nothing in between is left out.

* `IsListing`: the requests that a filter lets through, with their numbers, told from what was
  taken.
* `IsWindow`: which of them are shown; `RequestPage.Shows`: what a page says that shows them.
* `page_is_window`: any page of a store that batches were offered to.
-/

namespace OffChain

/-- The part of a list that a filter keeps is its end, if whatever follows an element that is kept
is kept too. -/
theorem filter_suffix {α : Type} {p : α → Bool} {xs : List α}
    (h : xs.Pairwise fun a b => p a = true → p b = true) : xs.filter p <:+ xs := by
  induction xs with
  | nil => exact List.suffix_refl []
  | cons a xs ih =>
    rw [List.pairwise_cons] at h
    by_cases ha : p a = true
    · -- all that follows `a` is kept too
      have hall : (a :: xs).filter p = a :: xs := by
        refine List.filter_eq_self.mpr fun b hb => ?_
        rcases List.mem_cons.mp hb with rfl | hb
        · exact ha
        · exact h.1 b hb ha
      rw [hall]
    · rw [List.filter_cons_of_neg ha]
      exact (ih h.2).trans (List.suffix_cons a xs)

/-! ### Listings -/

/-- The requests that a filter lets through, oldest first, with their numbers: of what was taken,
the first request of each key. -/
structure IsListing (taken : List WithdrawRequest) (filter : RequestFilter)
    (listing : List (Nat × WithdrawRequest)) : Prop where
  /-- Later requests have greater numbers. -/
  ascending : listing.Pairwise fun a b => a.1 < b.1
  /-- They are the ones that the filter lets through. -/
  mem_iff : ∀ e, e ∈ listing ↔
    (∃ i, IsFirstOfKey taken i e.2 ∧ e.1 = i + 1) ∧ filter.admits e.2 = true

/-- Which part of a listing, oldest first, is shown at a cursor, newest first. -/
structure IsWindow (listing : List (Nat × WithdrawRequest)) (start : Option Int) (count : Int32)
    (shown : List (Nat × WithdrawRequest)) : Prop where
  /-- A positive count asks for requests below the cursor: the newest ones of them. -/
  older : 0 < count.toInt → shown =
    (listing.reverse.filter fun e => start.all fun c => decide ((e.1 : Int) < c)).take
      count.toInt.natAbs
  /-- A negative count asks for requests above the cursor: the oldest ones of them. -/
  newer : count.toInt < 0 → shown.reverse =
    (listing.filter fun e => start.all fun c => decide (c < (e.1 : Int))).take count.toInt.natAbs
  /-- Between the cursor and what is left nothing is passed over. -/
  adjacent : ∃ passed left,
    (Direction.ofCount count).orient listing.reverse
        = passed ++ (Direction.ofCount count).orient shown ++ left ∧
      (∀ e ∈ passed, ¬(Direction.ofCount count).isBeyond start e.1 = true) ∧
      (∀ e ∈ shown, (Direction.ofCount count).isBeyond start e.1 = true) ∧
      ∀ e ∈ left, (Direction.ofCount count).isBeyond start e.1 = true

/-- What a page says that shows a part of a listing. -/
structure RequestPage.Shows (page : RequestPage) (listing shown : List (Nat × WithdrawRequest)) :
    Prop where
  /-- The requests, in all their fields. -/
  items_eq : page.items = shown.map Prod.snd
  /-- The number of all requests of the listing. -/
  total_eq : page.total.toNat = listing.length
  /-- The cursor of the first one. -/
  first_eq : page.first = shown.head?.map fun e => Store.Cursor.text e.1
  /-- The cursor of the last one. -/
  last_eq : page.last = shown.getLast?.map fun e => Store.Cursor.text e.1
  /-- Without requests there are no cursors. -/
  cursors_iff : (page.items = [] ↔ page.first = none) ∧ (page.items = [] ↔ page.last = none)

namespace RequestLog

variable {log : RequestLog} {d : Direction} {filter : RequestFilter} {start : Option Int}
  {count : Int32}

theorem IsOf.isListing {taken : List WithdrawRequest} (h : log.IsOf taken) (hsound : log.Sound)
    (filter : RequestFilter) : IsListing taken filter (log.listing filter) where
  ascending := listing_ascending hsound filter
  mem_iff := fun e => by rw [listing, List.mem_filter, h.mem_entries_iff]

/-! ### What a reader passes by -/

theorem rest_eq_filter (log : RequestLog) (d : Direction) (filter : RequestFilter)
    (start : Option Int) :
    log.rest d filter start
      = (log.rest d filter none).filter fun e => d.isBeyond start e.1 := by
  rw [rest_none, ← Direction.orient_filter, List.filter_reverse, rest]

/-- A reader at a cursor has passed by some of the listing and has the rest before him. -/
theorem exists_passed (h : log.Sound) (d : Direction) (filter : RequestFilter)
    (start : Option Int) :
    ∃ passed, log.rest d filter none = passed ++ log.rest d filter start ∧
      ∀ e ∈ passed, ¬d.isBeyond start e.1 = true := by
  have hpairwise := rest_pairwise h d filter none
  obtain ⟨passed, hpassed⟩ : log.rest d filter start <:+ log.rest d filter none := by
    rw [rest_eq_filter]
    exact filter_suffix (hpairwise.imp fun hab ha => Direction.isBeyond_trans ha hab)
  refine ⟨passed, hpassed.symm, fun e he hbeyond => ?_⟩
  -- such an entry would be in the rest as well, hence beyond itself
  rw [← hpassed, List.pairwise_append] at hpairwise
  have hmem : e ∈ log.rest d filter start := by
    rw [rest_eq_filter, List.mem_filter, ← hpassed]
    exact ⟨List.mem_append_left _ he, hbeyond⟩
  exact d.not_isBeyond_self e.1 (hpairwise.2.2 e he e hmem)

theorem orient_window (log : RequestLog) (filter : RequestFilter) (start : Option Int)
    (count : Int32) :
    (Direction.ofCount count).orient (log.window filter start count)
      = (log.rest (.ofCount count) filter start).take count.toInt.natAbs := by
  rw [window, Direction.orient_orient]

/-- **Windows**: what a page shows is next to its cursor. -/
theorem window_isWindow (h : log.Sound) (filter : RequestFilter) (start : Option Int)
    (count : Int32) :
    IsWindow (log.listing filter) start count (log.window filter start count) where
  older := by
    intro hpos
    have hd : Direction.ofCount count = .older := if_pos hpos
    rw [window, hd, rest, List.filter_reverse]
    rfl
  newer := by
    intro hneg
    have hd : Direction.ofCount count = .newer := if_neg (Int.not_lt.mpr hneg.le)
    rw [window, hd, rest]
    simp only [Direction.orient, List.reverse_reverse]
    rfl
  adjacent := by
    obtain ⟨passed, hpassed, hbefore⟩ := exists_passed h (.ofCount count) filter start
    have hbeyond : ∀ e ∈ log.rest (.ofCount count) filter start,
        (Direction.ofCount count).isBeyond start e.1 = true := fun e he => (mem_rest.mp he).2
    refine ⟨passed, (log.rest (.ofCount count) filter start).drop count.toInt.natAbs, ?_, hbefore,
      fun e he => ?_, fun e he => hbeyond e (List.mem_of_mem_drop he)⟩
    · rw [orient_window, List.append_assoc, List.take_append_drop, ← hpassed, rest_none]
    · rw [window, Direction.mem_orient] at he
      exact hbeyond e (List.mem_of_mem_take he)

theorem toNat_ofNat_length (h : log.Sound) (filter : RequestFilter) :
    (UInt64.ofNat (log.listing filter).length).toNat = (log.listing filter).length := by
  have hle := length_matching_le h filter
  rw [← map_listing, List.length_map] at hle
  have hsize : Store.maxInteger < UInt64.size := by decide
  exact UInt64.toNat_ofNat_of_lt' (hle.trans_lt hsize)

theorem page_total (log : RequestLog) (filter : RequestFilter) (start : Option Int)
    (count : Int32) :
    (log.page filter start count).total = UInt64.ofNat (log.listing filter).length := by
  by_cases hwindow : log.window filter start count = []
  · rw [page_of_empty hwindow]
    rfl
  · obtain ⟨newest, oldest, hhead, hlast⟩ := exists_ends hwindow
    rw [page_of_ends hhead hlast]

/-- **Contents**: a page says of its window what is so. -/
theorem page_shows (h : log.Sound) (filter : RequestFilter) (start : Option Int) (count : Int32) :
    (log.page filter start count).Shows (log.listing filter) (log.window filter start count) where
  items_eq := page_items_eq log filter start count
  total_eq := by rw [page_total, toNat_ofNat_length h]
  first_eq := next_page log .newer filter start count
  last_eq := next_page log .older filter start count
  cursors_iff := by
    have hfirst : (log.page filter start count).first = _ := next_page log .newer filter start count
    have hlast : (log.page filter start count).last = _ := next_page log .older filter start count
    rw [page_items_eq, hfirst, hlast]
    simp [Direction.edge]

end RequestLog

/-! ### Cursors that are none -/

namespace Store

theorem page_of_zero (s : Store) (filter : RequestFilter) (cursor : Option String) {count : Int32}
    (hcount : count.toInt = 0) : s.page filter cursor count = .error .zeroPage :=
  if_pos hcount

/-- A page at a text that is no cursor fails, if there is a table to read. -/
theorem page_of_unreadable {s : Store} {ledger : Ledger} (hledger : s.ledger = some ledger)
    (filter : RequestFilter) {text : String} (htext : Cursor.number? text = none) {count : Int32}
    (hcount : count.toInt ≠ 0) :
    s.page filter (some text) count = .error (.invalidCursor text) := by
  rw [page, if_neg hcount, hledger, Option.mapM_some, Cursor.read, htext]
  rfl

end Store

open RequestLog

/-- **Pages**: whatever batches were offered to a fresh store, a page at any cursor is the window
next to it, and says so.  A count of zero is an error, and else a text that is no cursor. -/
theorem page_is_window (history : List (List WithdrawRequest)) (filter : RequestFilter)
    (cursor : Option String) (count : Int32) :
    let s := Store.empty.ingest history
    ∃ listing, IsListing (Store.empty.taken history) filter listing ∧
      (count.toInt = 0 → s.page filter cursor count = .error .zeroPage) ∧
      (count.toInt ≠ 0 → ∀ text, cursor = some text → Store.Cursor.number? text = none →
        s.page filter cursor count = .error (.invalidCursor text)) ∧
      (count.toInt ≠ 0 → ∀ start, cursor.mapM Store.Cursor.read = .ok start →
        ∃ page shown, s.page filter cursor count = .ok page ∧ page.Shows listing shown ∧
          IsWindow listing start count shown) := by
  intro s
  have hsound := after_sound history
  have hledger : s.ledger = some (after history).toLedger := Store.ledger_ingest history
  refine ⟨(after history).listing filter, (after_isOf history).isListing hsound filter,
    s.page_of_zero filter cursor, ?_, ?_⟩
  · rintro hcount text rfl htext
    exact Store.page_of_unreadable hledger filter htext hcount
  · intro hcount start hcursor
    exact ⟨_, _, Store.page_eq (after history) hledger filter hcursor hcount,
      page_shows hsound filter start count, window_isWindow hsound filter start count⟩

end OffChain
