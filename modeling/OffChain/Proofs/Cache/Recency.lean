import Mathlib.Data.List.Induction
import OffChain.Proofs.Cache.Refusal

/-!
# Which entries make room

While entries are good, room is made by dropping the oldest ones, and no more of them than it takes
(`KeepsMost`).  The entries stand in the order in which the records of their validators were kept
last, so that what a cache holds is the end of the list of all of these (`entries_suffix`).

* `Sound.insert_keepsMost`: which of the other entries are left when a record is kept.
* `latest`: of all that was kept, the last record of every validator.
* `fewest_oldest_make_room`: both together, for every cache that can be reached; what was kept after
  the record of a validator that is still there is there too.
-/

namespace OffChain.Cache

variable {c : Cache}

/-! ### Making room -/

/-- What is left of some entries, oldest first, when so many bytes are to fit behind them and no
more of the oldest ones go than have to. -/
structure KeepsMost (budget incoming : Nat) (entries kept : List CachedDocument) : Prop where
  /-- Only the oldest ones go. -/
  suffix : kept <:+ entries
  /-- The bytes fit. -/
  fits : totalSize kept + incoming ≤ budget
  /-- If fewer had gone, they would not. -/
  most : ∀ more, more <:+ entries → kept.length < more.length →
    budget < totalSize more + incoming

/-- Entries that leave room stay. -/
theorem KeepsMost.eq_of_fits {budget incoming : Nat} {entries kept : List CachedDocument}
    (h : KeepsMost budget incoming entries kept) (hfits : totalSize entries + incoming ≤ budget) :
    kept = entries := by
  refine h.suffix.eq_of_length (Nat.le_antisymm h.suffix.length_le (Nat.not_lt.mp fun hlt => ?_))
  exact Nat.not_lt.mpr hfits (h.most entries (List.suffix_refl entries) hlt)

theorem keepsMost_self {budget incoming : Nat} {entries : List CachedDocument}
    (hfits : totalSize entries + incoming ≤ budget) :
    KeepsMost budget incoming entries entries where
  suffix := List.suffix_refl entries
  fits := hfits
  most := fun _ hmore hlt => absurd hlt (Nat.not_lt.mpr hmore.length_le)

/-- **Dropping**: the loop stops as soon as the bytes fit. -/
theorem dropOldest_keepsMost {budget incoming : Nat} (hincoming : incoming ≤ budget)
    (entries : List CachedDocument) :
    KeepsMost budget incoming entries
      (dropOldest budget incoming entries (totalSize entries)).1 := by
  induction entries with
  | nil =>
    refine keepsMost_self ?_
    rw [totalSize, Nat.zero_add]
    exact hincoming
  | cons e rest ih =>
    by_cases hfull : budget < totalSize (e :: rest) + incoming
    · have hrest : totalSize (e :: rest) - e.size = totalSize rest := by
        rw [totalSize, Nat.add_sub_cancel_left]
      rw [dropOldest, if_pos hfull, hrest]
      refine ⟨ih.suffix.trans (List.suffix_cons e rest), ih.fits, fun more hmore hlt => ?_⟩
      -- with the oldest entry the bytes do not fit, and for the others the next rounds see to it
      rcases List.suffix_cons_iff.mp hmore with rfl | hmore
      · exact hfull
      · exact ih.most more hmore hlt
    · rw [dropOldest, if_neg hfull]
      exact keepsMost_self (Nat.not_lt.mp hfull)

/-- Making room while entries are good. -/
theorem Sound.trimFor_keepsMost (h : c.Sound) (hgood : c.isStale = false) {incoming : Nat}
    (hincoming : incoming ≤ c.budget) :
    KeepsMost c.budget incoming c.entries (c.trimFor incoming).entries := by
  have hstale : c.eraseStale = c := by
    rw [eraseStale, hgood, if_neg Bool.false_ne_true]
  unfold Cache.trimFor
  split
  · rename_i hfits
    rw [h.used_eq] at hfits
    exact keepsMost_self hfits
  · rw [hstale, Cache.eraseOldest, h.used_eq]
    exact dropOldest_keepsMost hincoming c.entries

/-- **Keeping**: a record that is kept becomes the newest entry, behind as many of the entries of
other validators as leave room for it. -/
theorem Sound.insert_keepsMost (h : c.Sound) (hgood : c.isStale = false) {id : UInt256}
    {info : ValidatorInfo} {next : Cache} (hnext : c.insert id info = .ok next) :
    ∃ kept, KeepsMost c.budget (encode info).utf8ByteSize
        (c.entries.filter fun e => e.key != keyOf id) kept ∧
      next.entries = kept ++ [⟨keyOf id, encode info⟩] := by
  have hle : (encode info).utf8ByteSize ≤ c.budget := by
    refine Nat.not_lt.mp fun hlt => ?_
    rw [insert_of_lt hlt] at hnext
    cases hnext
  -- the entry that is replaced is gone before room is made
  have hsound : (c.erase (keyOf id)).Sound := (h.releases_erase (keyOf id)).sound h
  have hroom := hsound.trimFor_keepsMost hgood hle
  rw [insert_of_le hle] at hnext
  generalize (c.erase (keyOf id)).trimFor (encode info).utf8ByteSize = room at *
  obtain rfl := Except.ok.inj hnext
  exact ⟨room.entries, hroom, rfl⟩

/-! ### What was kept -/

/-- A record that was kept. -/
structure Writing where
  /-- The validator. -/
  id : UInt256
  /-- The record. -/
  info : ValidatorInfo
deriving DecidableEq

/-- Its entry. -/
def Writing.entry (w : Writing) : CachedDocument :=
  ⟨keyOf w.id, encode w.info⟩

/-- What a call keeps: nothing if the record is refused or if it only looks one up. -/
def written (c : Cache) : Call → List Writing
  | .insert id info =>
    match c.insert id info with
    | .ok _ => [⟨id, info⟩]
    | .error _ => []
  | .find _ => []

/-- What some calls keep, first one first. -/
def writtenAll : Cache → List Call → List Writing
  | _, [] => []
  | c, call :: calls => c.written call ++ (c.after call).writtenAll calls

/-- Of what was kept, the last record of every validator, in the order in which they were kept. -/
def latest : List Writing → List Writing
  | [] => []
  | w :: ws => if ws.any fun v => v.id == w.id then latest ws else w :: latest ws

theorem afterAll_concat (c : Cache) (calls : List Call) (call : Call) :
    c.afterAll (calls ++ [call]) = (c.afterAll calls).after call :=
  List.foldl_concat ..

theorem writtenAll_concat (c : Cache) (calls : List Call) (call : Call) :
    c.writtenAll (calls ++ [call]) = c.writtenAll calls ++ (c.afterAll calls).written call := by
  induction calls generalizing c with
  | nil => exact List.append_nil _
  | cons first calls ih =>
    rw [List.cons_append, writtenAll, ih, writtenAll, List.append_assoc]
    rfl

/-- A later record of a validator replaces the earlier ones. -/
theorem latest_append (ws vs : List Writing) :
    latest (ws ++ vs) = (latest ws).filter (fun w => !vs.any fun v => v.id == w.id)
      ++ latest vs := by
  induction ws with
  | nil => rfl
  | cons w ws ih =>
    rw [List.cons_append, latest, latest, List.any_append, ih]
    cases hlater : ws.any fun v => v.id == w.id with
    | true => rfl
    | false =>
      rw [Bool.false_or, if_neg Bool.false_ne_true, List.filter_cons]
      cases vs.any fun v => v.id == w.id with
      | true => rfl
      | false => rfl

theorem latest_concat (ws : List Writing) (w : Writing) :
    latest (ws ++ [w]) = (latest ws).filter (fun v => v.id != w.id) ++ [w] := by
  have hother : (fun v : Writing => !([w].any fun u => u.id == v.id)) = fun v => v.id != w.id := by
    funext v
    rw [List.any_cons, List.any_nil, Bool.or_false, bne, BEq.comm]
  rw [latest_append, hother]
  rfl

/-- The last record of a validator that was kept. -/
def lastOf? (ws : List Writing) (id : UInt256) : Option ValidatorInfo :=
  (ws.reverse.find? fun w => w.id == id).map Writing.info

theorem lastOf?_concat (ws : List Writing) (w : Writing) (id : UInt256) :
    lastOf? (ws ++ [w]) id = if w.id = id then some w.info else lastOf? ws id := by
  rw [lastOf?, List.reverse_append, List.reverse_singleton, List.singleton_append, List.find?_cons]
  by_cases hid : w.id = id
  · rw [if_pos hid, beq_iff_eq.mpr hid]
    rfl
  · rw [if_neg hid, beq_eq_false_iff_ne.mpr hid]
    rfl

theorem mem_latest_iff {ws : List Writing} {w : Writing} :
    w ∈ latest ws ↔ lastOf? ws w.id = some w.info := by
  -- the last record of all decides for its validator, and the ones before it for the others
  induction ws using List.reverseRecOn with
  | nil => exact iff_of_false List.not_mem_nil (Option.some_ne_none w.info).symm
  | append_singleton ws v ih =>
    rw [latest_concat, lastOf?_concat, List.mem_append, List.mem_filter, List.mem_singleton, ih]
    by_cases hid : v.id = w.id
    · rw [if_pos hid, hid, bne_self_eq_false, Option.some.injEq]
      simp only [Bool.false_eq_true, and_false, false_or]
      constructor
      · rintro rfl
        rfl
      · intro hinfo
        exact (congrArg₂ Writing.mk hid hinfo).symm
    · have hne : (w.id != v.id) = true := bne_iff_ne.mpr (Ne.symm hid)
      rw [if_neg hid, hne]
      simp only [and_true]
      exact or_iff_left fun heq => hid (congrArg Writing.id heq).symm

/-- Every validator of which something was kept has a last record. -/
theorem exists_mem_latest {ws : List Writing} {w : Writing} (hw : w ∈ ws) :
    ∃ v ∈ latest ws, v.id = w.id := by
  have hsome : (ws.reverse.find? fun v => v.id == w.id).isSome = true :=
    List.find?_isSome.mpr ⟨w, List.mem_reverse.mpr hw, beq_self_eq_true w.id⟩
  obtain ⟨v, hv⟩ := Option.isSome_iff_exists.mp hsome
  have hfound := List.find?_some hv
  have hid : v.id = w.id := beq_iff_eq.mp hfound
  have hlast : lastOf? ws v.id = some v.info := by rw [lastOf?, hid, hv, Option.map_some]
  exact ⟨v, mem_latest_iff.mpr hlast, hid⟩

theorem latest_sublist (ws : List Writing) : (latest ws).Sublist ws := by
  induction ws with
  | nil => exact List.Sublist.slnil
  | cons w ws ih =>
    rw [latest]
    split
    · exact ih.cons w
    · exact ih.cons_cons w

/-- No validator has two last records. -/
theorem keys_latest_nodup (ws : List Writing) :
    ((latest ws).map fun w => w.entry.key).Nodup := by
  induction ws with
  | nil => exact List.nodup_nil
  | cons w ws ih =>
    cases hlater : ws.any fun v => v.id == w.id with
    | true =>
      rw [latest, hlater, if_pos rfl]
      exact ih
    | false =>
      rw [latest, hlater, if_neg Bool.false_ne_true, List.map_cons, List.nodup_cons]
      refine ⟨fun hmem => ?_, ih⟩
      obtain ⟨v, hv, hkey⟩ := List.mem_map.mp hmem
      have hnot := List.any_eq_false.mp hlater v ((latest_sublist ws).subset hv)
      exact hnot (beq_iff_eq.mpr (keyOf_inj.mp hkey))

/-! ### Caches that are reached -/

/-- The entries of some records. -/
def entriesOf (ws : List Writing) : List CachedDocument :=
  ws.map Writing.entry

/-- Erasing the entry of a validator, told by its records. -/
theorem filter_entriesOf (ws : List Writing) (id : UInt256) :
    (entriesOf ws).filter (fun e => e.key != keyOf id)
      = entriesOf (ws.filter fun w => w.id != id) := by
  have hkey : ((fun e : CachedDocument => e.key != keyOf id) ∘ Writing.entry)
      = fun w => w.id != id := by
    funext w
    rw [Function.comp_apply, Bool.eq_iff_iff, bne_iff_ne, bne_iff_ne, ne_eq, ne_eq]
    exact not_congr keyOf_inj
  rw [entriesOf, List.filter_map, hkey, entriesOf]

/-- What a call keeps, if it keeps something. -/
theorem written_insert_of_ok {id : UInt256} {info : ValidatorInfo} {next : Cache}
    (h : c.insert id info = .ok next) :
    c.written (.insert id info) = [⟨id, info⟩] ∧ c.after (.insert id info) = next := by
  rw [written, after, h]
  exact ⟨rfl, rfl⟩

theorem written_insert_of_error {id : UInt256} {info : ValidatorInfo} {e : OversizedEntry}
    (h : c.insert id info = .error e) :
    c.written (.insert id info) = [] ∧ c.after (.insert id info) = c := by
  rw [written, after, h]
  exact ⟨rfl, rfl⟩

/-- While entries are good, looking a record up leaves the cache as it is. -/
theorem find_fst_of_good (hgood : c.isStale = false) (id : UInt256) :
    (c.find id).value.1 = c := by
  rw [find_value hgood]

/-- **Step**: a call moves the validator whose record it keeps to the end, and what is gone from the
beginning stays away. -/
theorem Sound.entries_suffix_after (h : c.Sound) (hgood : c.isStale = false) {ws : List Writing}
    (hws : c.entries <:+ entriesOf (latest ws)) (call : Call) :
    (c.after call).entries <:+ entriesOf (latest (ws ++ c.written call)) := by
  cases call with
  | insert id info =>
    cases hinsert : c.insert id info with
    | error e =>
      obtain ⟨hwritten, hafter⟩ := written_insert_of_error hinsert
      rw [hwritten, hafter, List.append_nil]
      exact hws
    | ok next =>
      obtain ⟨hwritten, hafter⟩ := written_insert_of_ok hinsert
      obtain ⟨kept, hkept, hentries⟩ := h.insert_keepsMost hgood hinsert
      have hothers := hkept.suffix.trans (hws.filter fun e => e.key != keyOf id)
      rw [filter_entriesOf] at hothers
      obtain ⟨gone, hgone⟩ := hothers
      rw [hwritten, hafter, latest_concat, hentries]
      refine ⟨gone, ?_⟩
      rw [← List.append_assoc, hgone, entriesOf, entriesOf, List.map_append]
      rfl
  | find id =>
    rw [Cache.after, find_fst_of_good hgood, written, List.append_nil]
    exact hws

theorem isStale_afterAll (lifetime budget : Nat) (calls : List Call) :
    ((empty lifetime budget).afterAll calls).isStale = (lifetime == 0) := by
  rw [isStale, lifetime_afterAll]
  rfl

theorem isStale_afterAll_of_ne {lifetime : Nat} (hlifetime : lifetime ≠ 0) (budget : Nat)
    (calls : List Call) : ((empty lifetime budget).afterAll calls).isStale = false :=
  (isStale_afterAll lifetime budget calls).trans (beq_eq_false_iff_ne.mpr hlifetime)

/-- **Run**: the cache holds the last of the last records of all validators. -/
theorem entries_suffix {lifetime : Nat} (hlifetime : lifetime ≠ 0) (budget : Nat)
    (calls : List Call) :
    ((empty lifetime budget).afterAll calls).entries
      <:+ entriesOf (latest ((empty lifetime budget).writtenAll calls)) := by
  induction calls using List.reverseRecOn with
  | nil => exact List.suffix_refl []
  | append_singleton calls call ih =>
    have hsound := ((empty_sound lifetime budget).afterAll calls).1
    have hgood := isStale_afterAll_of_ne hlifetime budget calls
    rw [afterAll_concat, writtenAll_concat]
    exact hsound.entries_suffix_after hgood ih call

/-! ### Recency -/

/-- Whether a cache has an entry of a validator. -/
def Holds (c : Cache) (id : UInt256) : Prop :=
  ∃ e ∈ c.entries, e.key = keyOf id

/-- The last records of all validators, around that of a validator of which nothing was kept
afterwards. -/
theorem exists_latest_eq (before : List Writing) {after : List Writing} {w : Writing}
    (hlast : ∀ v ∈ after, v.id ≠ w.id) :
    ∃ older, latest (before ++ w :: after) = older ++ w :: latest after := by
  have hany : (after.any fun v => v.id == w.id) = false :=
    List.any_eq_false.mpr fun v hv hid => hlast v hv (beq_iff_eq.mp hid)
  rw [latest_append, latest, hany, if_neg Bool.false_ne_true]
  exact ⟨_, rfl⟩

/-- **Recency**: if the last records of a cache are all that it holds, those that were kept after
one that it holds are there too. -/
theorem holds_of_later {before after : List Writing} {w : Writing}
    (hentries : c.entries <:+ entriesOf (latest (before ++ w :: after)))
    (hlast : ∀ v ∈ after, v.id ≠ w.id) (hw : c.Holds w.id) {v : Writing} (hv : v ∈ after) :
    c.Holds v.id := by
  obtain ⟨older, hlatest⟩ := exists_latest_eq before hlast
  have hkeys := keys_latest_nodup (before ++ w :: after)
  rw [hlatest, List.map_append, List.map_cons] at hkeys
  have hnew : w.entry.key ∉ (latest after).map fun u => u.entry.key :=
    (List.nodup_cons.mp hkeys.of_append_right).1
  have htail : w.entry :: entriesOf (latest after)
      <:+ entriesOf (latest (before ++ w :: after)) := by
    rw [hlatest, entriesOf, entriesOf, List.map_append]
    exact List.suffix_append _ _
  -- the entries reach back to that of `w`, for behind it there is no other one of its validator
  have hreach : entriesOf (latest after) <:+ c.entries := by
    rcases List.suffix_or_suffix_of_suffix hentries htail with hshort | hlong
    · rcases List.suffix_cons_iff.mp hshort with heq | hshorter
      · rw [heq]
        exact List.suffix_cons _ _
      · obtain ⟨e, he, hkey⟩ := hw
        obtain ⟨u, hu, rfl⟩ := List.mem_map.mp (hshorter.subset he)
        exact absurd (List.mem_map.mpr ⟨u, hu, hkey⟩) hnew
    · exact (List.suffix_cons _ _).trans hlong
  obtain ⟨u, hu, hid⟩ := exists_mem_latest hv
  exact ⟨u.entry, hreach.subset (List.mem_map_of_mem hu), congrArg keyOf hid⟩

/-- **Eviction**: in every cache that can be reached while entries are good, a record that is kept
becomes the newest entry, behind those of other validators, of which as few as possible have gone,
the oldest ones; looking a record up changes nothing.  So the entries are those of the last records
of all validators, from some point on, and if the record of a validator is still there, so is
everything that was kept later. -/
theorem fewest_oldest_make_room (lifetime budget : Nat) (hlifetime : lifetime ≠ 0)
    (calls : List Call) :
    let c := (empty lifetime budget).afterAll calls
    let kept := (empty lifetime budget).writtenAll calls
    (∀ id info next, c.insert id info = .ok next →
      ∃ left, KeepsMost budget (encode info).utf8ByteSize
          (c.entries.filter fun e => e.key != keyOf id) left ∧
        next.entries = left ++ [⟨keyOf id, encode info⟩]) ∧
    (∀ id, (c.find id).value.1 = c) ∧
    c.entries <:+ entriesOf (latest kept) ∧
    ∀ before w after, kept = before ++ w :: after → (∀ v ∈ after, v.id ≠ w.id) → c.Holds w.id →
      ∀ v ∈ after, c.Holds v.id := by
  intro c kept
  obtain ⟨hsound, hbudget⟩ : c.Sound ∧ c.budget = budget :=
    (empty_sound lifetime budget).afterAll calls
  have hgood : c.isStale = false := isStale_afterAll_of_ne hlifetime budget calls
  have hentries : c.entries <:+ entriesOf (latest kept) := entries_suffix hlifetime budget calls
  refine ⟨fun id info next hnext => ?_, find_fst_of_good hgood, hentries, ?_⟩
  · rw [← hbudget]
    exact hsound.insert_keepsMost hgood hnext
  · intro before w after hkept hlast hw v hv
    rw [hkept] at hentries
    exact holds_of_later hentries hlast hw hv

/-- A cache that has room for two short names, after the first one was replaced. -/
def twoNames : Cache :=
  (empty 1 (2 * (encode (Archive.named "A")).utf8ByteSize)).afterAll
    [.insert 1 (Archive.named "A"), .insert 2 (Archive.named "B"), .insert 1 (Archive.named "C")]

/-- The name that was replaced is newer than the other one, and a longer name takes the room of
both. -/
theorem long_name_takes_room_of_two :
    (1 : Nat) ≠ 0 ∧ twoNames.entries.map CachedDocument.key = [keyOf 2, keyOf 1] ∧
      ∃ next left, twoNames.insert 3 (Archive.named "DE") = .ok next ∧
        KeepsMost twoNames.budget (encode (Archive.named "DE")).utf8ByteSize twoNames.entries left ∧
        left = [] ∧ next.entries = left ++ [⟨keyOf 3, encode (Archive.named "DE")⟩] := by
  have hnext : twoNames.insert 3 (Archive.named "DE")
      = .ok (twoNames.after (.insert 3 (Archive.named "DE"))) := by decide +kernel
  have hothers : (twoNames.entries.filter fun e => e.key != keyOf 3) = twoNames.entries := by
    decide +kernel
  have hone : (twoNames.after (.insert 3 (Archive.named "DE"))).entries
      = [⟨keyOf 3, encode (Archive.named "DE")⟩] := by decide +kernel
  obtain ⟨left, hleft, hentries⟩ := (fewest_oldest_make_room 1 _ (by decide) _).1 3 _ _ hnext
  have hnil : left = [] := List.append_left_eq_self.mp (hentries.symm.trans hone)
  refine ⟨by decide, by decide +kernel, _, left, hnext, ?_, hnil, hentries⟩
  exact hothers ▸ hleft

end OffChain.Cache
