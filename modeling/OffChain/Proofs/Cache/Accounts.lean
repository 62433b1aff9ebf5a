import Mathlib.Data.List.Nodup
import OffChain.Cache
import OffChain.Proofs.Numerals

/-!
# The accounts of the cache

The cache counts its bytes apart from its entries, and the loop that makes room looks at the counter
only.  `Sound` says that the two agree, that the budget holds and that no key has two entries.

Whatever removes entries, by key, because they are no longer good, or one by one in the loop,
leaves a cache that the old one releases (`Releases`): some entries are gone, the others stay in
their order, and the counter went down by what the gone ones were counted for, which it did without
reaching below zero.  A release of a sound cache is sound (`Releases.sound`), so all the accounts
come down to that one lemma and to adding an entry that fits.

* `exists_rounds?`: the loop ends, after no more rounds than there are entries, and if the counter
  is right and the new bytes are within the budget, it ends because they fit
  (`Sound.eraseOldest_fits`).
* `Sound.afterAll`: any calls leave a sound cache.
* `cache_accounts_are_exact`: the accounts of every cache that can be reached, and of every step of
  adding a record to it.
-/

namespace OffChain.Cache

variable {c d : Cache}

/-! ### Sizes and keys -/

theorem totalSize_append (es fs : List CachedDocument) :
    totalSize (es ++ fs) = totalSize es + totalSize fs := by
  induction es with
  | nil => rw [List.nil_append, totalSize, Nat.zero_add]
  | cons e es ih => rw [List.cons_append, totalSize, totalSize, ih, Nat.add_assoc]

theorem totalSize_perm {es fs : List CachedDocument} (h : es.Perm fs) :
    totalSize es = totalSize fs := by
  induction h with
  | nil => rfl
  | cons e _ ih => rw [totalSize, totalSize, ih]
  | swap e f es =>
    simp only [totalSize]
    omega
  | trans _ _ ih ih' => exact ih.trans ih'

theorem keyOf_inj {i j : UInt256} : keyOf i = keyOf j ↔ i = j := by
  rw [keyOf, keyOf, String.append_right_inj, UInt256.toText_inj]

/-! ### Sound caches -/

/-- What every cache that can be reached satisfies. -/
structure Sound (c : Cache) : Prop where
  /-- The counter is the size of the entries. -/
  used_eq : c.used = totalSize c.entries
  /-- They are within the budget. -/
  used_le : c.used ≤ c.budget
  /-- No key has two entries. -/
  nodup : (c.entries.map CachedDocument.key).Nodup

theorem empty_sound (lifetime budget : Nat) : (empty lifetime budget).Sound where
  used_eq := rfl
  used_le := Nat.zero_le _
  nodup := List.nodup_nil

/-- A cache that remains when some entries go. -/
structure Releases (c d : Cache) (gone : List CachedDocument) : Prop where
  /-- Nothing but these entries goes. -/
  perm : (gone ++ d.entries).Perm c.entries
  /-- The others stay in their order. -/
  sublist : d.entries.Sublist c.entries
  /-- The counter was no less than what goes, and goes down by just that. -/
  used_add : d.used + totalSize gone = c.used
  /-- The budget stays. -/
  budget_eq : d.budget = c.budget

/-- **Removing entries** keeps a cache sound. -/
theorem Releases.sound {gone : List CachedDocument} (h : c.Releases d gone) (hc : c.Sound) :
    d.Sound where
  used_eq := by
    have hsize := totalSize_perm h.perm
    have hused := h.used_add
    rw [totalSize_append] at hsize
    rw [hc.used_eq] at hused
    omega
  used_le := by
    have hused := h.used_add
    have hle := hc.used_le
    rw [h.budget_eq]
    omega
  nodup := hc.nodup.sublist (h.sublist.map CachedDocument.key)

theorem releases_self (c : Cache) : c.Releases c [] :=
  ⟨List.Perm.refl _, List.Sublist.refl _, Nat.add_zero _, rfl⟩

/-- Replacing an entry, and an entry that is found to be no longer good. -/
theorem Sound.releases_erase (h : c.Sound) (key : String) :
    c.Releases (c.erase key) (c.entries.filter fun e => e.key == key) := by
  have hperm : ((c.entries.filter fun e => e.key == key)
      ++ c.entries.filter fun e => e.key != key).Perm c.entries :=
    List.filter_append_perm (fun e => e.key == key) c.entries
  refine ⟨hperm, List.filter_sublist, ?_, rfl⟩
  have hsize := totalSize_perm hperm
  rw [totalSize_append, ← h.used_eq] at hsize
  show c.used - totalSize _ + totalSize _ = c.used
  omega

/-- Entries that are no longer good go all at once. -/
theorem Sound.releases_eraseStale (h : c.Sound) :
    c.Releases c.eraseStale (if c.isStale then c.entries else []) := by
  unfold eraseStale
  split
  · refine ⟨?_, List.nil_sublist _, ?_, rfl⟩
    · rw [List.append_nil]
    · show c.used - totalSize c.entries + totalSize c.entries = c.used
      rw [h.used_eq]
      omega
  · exact releases_self c

/-! ### The loop that makes room -/

/-- One round of the loop: the oldest entry goes if the incoming bytes do not fit.  There is none if
they do, or if no entry is left. -/
def dropOne? (c : Cache) (incoming : Nat) : Option Cache :=
  if c.budget < c.used + incoming then
    match c.entries with
    | [] => none
    | e :: rest => some { c with entries := rest, used := c.used - e.size }
  else none

/-- The cache after some rounds, if there are so many. -/
def rounds? (incoming : Nat) : Nat → Cache → Option Cache
  | 0, c => some c
  | k + 1, c => (c.dropOne? incoming).bind (rounds? incoming k)

/-- **Round**: the oldest entry of a sound cache goes. -/
theorem Sound.releases_dropOne? (h : c.Sound) {incoming : Nat} (hd : c.dropOne? incoming = some d) :
    ∃ e, c.entries = e :: d.entries ∧ c.Releases d [e] := by
  unfold dropOne? at hd
  split at hd
  · split at hd
    · exact absurd hd (Option.some_ne_none d).symm
    · rename_i e rest hentries
      obtain rfl := Option.some.inj hd
      refine ⟨e, hentries, ?_, ?_, ?_, rfl⟩
      · rw [hentries]
        exact List.Perm.refl _
      · rw [hentries]
        exact List.sublist_cons_self e rest
      · have hused := h.used_eq
        rw [hentries, totalSize] at hused
        show c.used - e.size + (e.size + 0) = c.used
        omega
  · exact absurd hd (Option.some_ne_none d).symm

/-- **Rounds**: any number of them. -/
theorem Sound.of_rounds? (h : c.Sound) {incoming k : Nat} (hd : rounds? incoming k c = some d) :
    d.Sound ∧ d.budget = c.budget ∧ d.entries.Sublist c.entries := by
  induction k generalizing c with
  | zero =>
    obtain rfl := Option.some.inj hd
    exact ⟨h, rfl, List.Sublist.refl _⟩
  | succ k ih =>
    rw [rounds?, Option.bind_eq_some_iff] at hd
    obtain ⟨next, hnext, hrest⟩ := hd
    obtain ⟨e, -, hreleases⟩ := h.releases_dropOne? hnext
    obtain ⟨hsound, hbudget, hsublist⟩ := ih (hreleases.sound h) hrest
    exact ⟨hsound, hbudget.trans hreleases.budget_eq, hsublist.trans hreleases.sublist⟩

/-- **Termination**: the loop ends, after no more rounds than there are entries, and what remains
then is what making room leaves. -/
theorem exists_rounds? (c : Cache) (incoming : Nat) :
    ∃ k ≤ c.entries.length, rounds? incoming k c = some (c.eraseOldest incoming) ∧
      (c.eraseOldest incoming).dropOne? incoming = none := by
  -- By induction on the entries: a round that is needed takes the first of them.
  induction hentries : c.entries generalizing c with
  | nil =>
    have hself : c.eraseOldest incoming = c := by
      unfold eraseOldest
      rw [hentries, dropOldest, ← hentries]
    rw [hself]
    refine ⟨0, Nat.le_refl _, rfl, ?_⟩
    unfold dropOne?
    rw [hentries]
    exact ite_self none
  | cons e rest ih =>
    by_cases hfull : c.budget < c.used + incoming
    · obtain ⟨k, hk, hrounds, hend⟩ :=
        ih { c with entries := rest, used := c.used - e.size } rfl
      have hnext : c.dropOne? incoming
          = some { c with entries := rest, used := c.used - e.size } := by
        unfold dropOne?
        rw [if_pos hfull, hentries]
      have hsame : c.eraseOldest incoming
          = eraseOldest { c with entries := rest, used := c.used - e.size } incoming := by
        unfold eraseOldest
        rw [hentries, dropOldest, if_pos hfull]
      rw [hsame]
      refine ⟨k + 1, Nat.succ_le_succ hk, ?_, hend⟩
      rw [rounds?, hnext]
      exact hrounds
    · have hself : c.eraseOldest incoming = c := by
        unfold eraseOldest
        rw [hentries, dropOldest, if_neg hfull, ← hentries]
      rw [hself]
      refine ⟨0, Nat.zero_le _, rfl, ?_⟩
      unfold dropOne?
      rw [if_neg hfull]

theorem Sound.eraseOldest (h : c.Sound) (incoming : Nat) :
    (c.eraseOldest incoming).Sound ∧ (c.eraseOldest incoming).budget = c.budget ∧
      (c.eraseOldest incoming).entries.Sublist c.entries := by
  obtain ⟨k, -, hrounds, -⟩ := exists_rounds? c incoming
  exact h.of_rounds? hrounds

/-- Bytes within the budget fit when the loop ends: once all entries are gone the counter is zero,
so it does not end for want of entries. -/
theorem Sound.eraseOldest_fits (h : c.Sound) {incoming : Nat} (hincoming : incoming ≤ c.budget) :
    (c.eraseOldest incoming).used + incoming ≤ c.budget := by
  obtain ⟨hsound, hbudget, -⟩ := h.eraseOldest incoming
  obtain ⟨-, -, -, hend⟩ := exists_rounds? c incoming
  unfold dropOne? at hend
  rw [hbudget] at hend
  split at hend
  · split at hend
    · rename_i hentries
      have hused := hsound.used_eq
      rw [hentries, totalSize] at hused
      omega
    · exact absurd hend (Option.some_ne_none _)
  · rename_i hfits
    exact Nat.not_lt.mp hfits

/-- Making room for bytes within the budget. -/
theorem Sound.trimFor (h : c.Sound) {incoming : Nat} (hincoming : incoming ≤ c.budget) :
    (c.trimFor incoming).Sound ∧ (c.trimFor incoming).budget = c.budget ∧
      (c.trimFor incoming).entries.Sublist c.entries ∧
      (c.trimFor incoming).used + incoming ≤ c.budget := by
  unfold Cache.trimFor
  split
  · rename_i hfits
    exact ⟨h, rfl, List.Sublist.refl _, hfits⟩
  · have hstale := h.releases_eraseStale
    have hgood := hstale.sound h
    obtain ⟨hsound, hbudget, hsublist⟩ := hgood.eraseOldest incoming
    rw [← hstale.budget_eq] at hincoming
    have hfits := hgood.eraseOldest_fits hincoming
    rw [hstale.budget_eq] at hbudget hfits
    exact ⟨hsound, hbudget, hsublist.trans hstale.sublist, hfits⟩

/-- What making room for so many bytes comes to, entry by entry. -/
structure MakesRoom (c : Cache) (incoming : Nat) : Prop where
  /-- Entries that are no longer good go first, and were counted. -/
  stale : c.Releases c.eraseStale (if c.isStale then c.entries else [])
  /-- The loop comes to its end. -/
  ends : ∃ k ≤ c.eraseStale.entries.length,
    rounds? incoming k c.eraseStale = some (c.eraseStale.eraseOldest incoming) ∧
      (c.eraseStale.eraseOldest incoming).dropOne? incoming = none
  /-- In every round the oldest entry goes, which was counted. -/
  round : ∀ k d next, rounds? incoming k c.eraseStale = some d → d.dropOne? incoming = some next →
    d.used ≤ c.budget ∧ ∃ e, d.entries = e :: next.entries ∧ d.Releases next [e]

theorem Sound.makesRoom (h : c.Sound) (incoming : Nat) : c.MakesRoom incoming where
  stale := h.releases_eraseStale
  ends := exists_rounds? c.eraseStale incoming
  round := by
    intro k d next hd hnext
    have hstale := h.releases_eraseStale
    obtain ⟨hsound, hbudget, -⟩ := (hstale.sound h).of_rounds? hd
    refine ⟨?_, hsound.releases_dropOne? hnext⟩
    rw [← hstale.budget_eq, ← hbudget]
    exact hsound.used_le

/-! ### Adding a record -/

/-- **Appending**: a fitting entry of a new key. -/
theorem Sound.append (h : c.Sound) {e : CachedDocument} (hfits : c.used + e.size ≤ c.budget)
    (hnew : ∀ f ∈ c.entries, f.key ≠ e.key) : (c.append e).Sound where
  used_eq := by
    show c.used + e.size = totalSize (c.entries ++ [e])
    rw [totalSize_append, h.used_eq]
    rfl
  used_le := hfits
  nodup := by
    show ((c.entries ++ [e]).map CachedDocument.key).Nodup
    rw [List.map_append, List.map_singleton, List.nodup_append_comm, List.singleton_append,
      List.nodup_cons, List.mem_map]
    exact ⟨fun ⟨f, hf, hkey⟩ => hnew f hf hkey, h.nodup⟩

section Adding

variable {id : UInt256} {info : ValidatorInfo}

theorem insert_of_lt (h : c.budget < (encode info).utf8ByteSize) :
    c.insert id info = .error ⟨(encode info).utf8ByteSize, c.budget⟩ :=
  if_pos h

theorem insert_of_le (h : (encode info).utf8ByteSize ≤ c.budget) :
    c.insert id info = .ok
      (((c.erase (keyOf id)).trimFor (encode info).utf8ByteSize).append
        ⟨keyOf id, encode info⟩) :=
  if_neg (Nat.not_lt.mpr h)

/-- A record is refused exactly if its document exceeds the whole budget. -/
theorem insert_eq_error_iff {e : OversizedEntry} :
    c.insert id info = .error e ↔
      c.budget < (encode info).utf8ByteSize ∧ e = ⟨(encode info).utf8ByteSize, c.budget⟩ := by
  rcases Nat.lt_or_ge c.budget (encode info).utf8ByteSize with hlt | hle
  · rw [insert_of_lt hlt, Except.error.injEq, and_iff_right hlt, eq_comm]
  · rw [insert_of_le hle]
    exact iff_of_false (fun h => nomatch h) fun h => Nat.not_lt.mpr hle h.1

theorem key_ne_of_mem_erase {key : String} {e : CachedDocument} (he : e ∈ (c.erase key).entries) :
    e.key ≠ key :=
  bne_iff_ne.mp (List.mem_filter.mp he).2

/-- **Adding**: a record that is kept is the newest entry, behind some of the entries of other
validators in their order, and all is sound again. -/
theorem Sound.insert (h : c.Sound) {next : Cache} (hnext : c.insert id info = .ok next) :
    next.Sound ∧ next.budget = c.budget ∧
      ∃ kept, kept.Sublist (c.erase (keyOf id)).entries ∧
        next.entries = kept ++ [⟨keyOf id, encode info⟩] := by
  have hle : (encode info).utf8ByteSize ≤ c.budget := by
    refine Nat.not_lt.mp fun hlt => ?_
    rw [insert_of_lt hlt] at hnext
    cases hnext
  have hreleases := h.releases_erase (keyOf id)
  obtain ⟨hsound, hbudget, hsublist, hfits⟩ :=
    (hreleases.sound h).trimFor (hreleases.budget_eq ▸ hle)
  rw [insert_of_le hle] at hnext
  generalize (c.erase (keyOf id)).trimFor (encode info).utf8ByteSize = room at *
  obtain rfl := Except.ok.inj hnext
  refine ⟨hsound.append ?_ ?_, hbudget.trans hreleases.budget_eq, room.entries, hsublist, rfl⟩
  · rw [hbudget]
    exact hfits
  · -- the entry that this one replaces was erased before room was made
    exact fun f hf => key_ne_of_mem_erase (hsublist.subset hf)

end Adding

/-! ### Runs -/

/-- Looking a record up leaves the cache or, if entries are no longer good, the cache without the
entry of that validator. -/
theorem find_fst_of_isStale (c : Cache) (id : UInt256) :
    (c.find id).value.1 = c ∨
      c.isStale = true ∧ (c.find id).value.1 = c.erase (keyOf id) := by
  unfold find
  split
  · exact Or.inl rfl
  · rename_i e he
    have hkey := List.find?_some he
    split
    · rename_i hstale
      exact Or.inr ⟨hstale, congrArg c.erase (beq_iff_eq.mp hkey)⟩
    · split <;> exact Or.inl rfl

theorem find_fst (c : Cache) (id : UInt256) :
    (c.find id).value.1 = c ∨ (c.find id).value.1 = c.erase (keyOf id) :=
  (find_fst_of_isStale c id).imp_right And.right

/-- A call of the cache. -/
inductive Call where
  /-- Keeps the record of a validator. -/
  | insert (id : UInt256) (info : ValidatorInfo)
  /-- Looks the record of a validator up. -/
  | find (id : UInt256)
deriving DecidableEq

/-- The cache after a call; a record that is refused leaves it as it is. -/
def after (c : Cache) : Call → Cache
  | .insert id info =>
    match c.insert id info with
    | .ok next => next
    | .error _ => c
  | .find id => (c.find id).value.1

/-- The cache after some calls, first one first. -/
def afterAll (c : Cache) (calls : List Call) : Cache :=
  calls.foldl after c

/-- **Step**: a call keeps a cache sound and its budget as it is. -/
theorem Sound.after (h : c.Sound) (call : Call) :
    (c.after call).Sound ∧ (c.after call).budget = c.budget := by
  cases call with
  | insert id info =>
    unfold Cache.after
    dsimp only
    split
    · rename_i next hnext
      obtain ⟨hsound, hbudget, -⟩ := h.insert hnext
      exact ⟨hsound, hbudget⟩
    · exact ⟨h, rfl⟩
  | find id =>
    show (c.find id).value.1.Sound ∧ (c.find id).value.1.budget = c.budget
    rcases find_fst c id with hsame | herased
    · rw [hsame]
      exact ⟨h, rfl⟩
    · rw [herased]
      exact ⟨(h.releases_erase (keyOf id)).sound h, rfl⟩

/-- **Run**: so do any calls. -/
theorem Sound.afterAll (h : c.Sound) (calls : List Call) :
    (c.afterAll calls).Sound ∧ (c.afterAll calls).budget = c.budget := by
  induction calls generalizing c with
  | nil => exact ⟨h, rfl⟩
  | cons call calls ih =>
    obtain ⟨hsound, hbudget⟩ := h.after call
    obtain ⟨hsoundAll, hbudgetAll⟩ := ih hsound
    exact ⟨hsoundAll, hbudgetAll.trans hbudget⟩

/-- **Accounts**: in every cache that can be reached the counter is the size of the entries and
within the budget, no validator has two entries, and whatever goes was counted, so that the counter
is never taken below zero.  Making room always ends.  A record is refused exactly if its document
exceeds the whole budget, which leaves the cache as it is; any other becomes the newest entry. -/
theorem cache_accounts_are_exact (lifetime budget : Nat) (calls : List Call) :
    let c := (empty lifetime budget).afterAll calls
    c.used = totalSize c.entries ∧
    c.used ≤ budget ∧
    (∀ id, c.entries.countP (fun e => e.key == keyOf id) ≤ 1) ∧
    (∀ id, c.Releases (c.erase (keyOf id)) (c.entries.filter fun e => e.key == keyOf id)) ∧
    ∀ id info,
      (c.erase (keyOf id)).MakesRoom (encode info).utf8ByteSize ∧
      (∀ e, c.insert id info = .error e ↔
        budget < (encode info).utf8ByteSize ∧ e = ⟨(encode info).utf8ByteSize, budget⟩) ∧
      (budget < (encode info).utf8ByteSize → c.after (.insert id info) = c) ∧
      ((encode info).utf8ByteSize ≤ budget →
        ∃ kept, kept.Sublist (c.erase (keyOf id)).entries ∧
          (c.after (.insert id info)).entries = kept ++ [⟨keyOf id, encode info⟩]) := by
  intro c
  obtain ⟨hsound, hbudget⟩ : c.Sound ∧ c.budget = budget :=
    (empty_sound lifetime budget).afterAll calls
  refine ⟨hsound.used_eq, hbudget ▸ hsound.used_le, fun id => ?_,
    fun id => hsound.releases_erase (keyOf id), fun id info => ⟨?_, fun e => ?_, ?_, ?_⟩⟩
  · have hcount := List.nodup_iff_count_le_one.mp hsound.nodup (keyOf id)
    rw [List.count, List.countP_map] at hcount
    exact hcount
  · exact ((hsound.releases_erase (keyOf id)).sound hsound).makesRoom _
  · rw [← hbudget]
    exact insert_eq_error_iff
  · rw [← hbudget]
    intro hlt
    rw [Cache.after, insert_of_lt hlt]
  · rw [← hbudget]
    intro hle
    obtain ⟨-, -, hentries⟩ := hsound.insert (insert_of_le hle)
    rw [Cache.after, insert_of_le hle]
    exact hentries

end OffChain.Cache
