import Mathlib.Data.List.Infix
import OffChain.Proofs.Cache.Recency

/-!
# What is found is what was kept last

An entry of a cache is that of the last record of its validator, so whatever is found is that record
(`recordOf?_eq_lastOf?`).  Nothing is lost as long as the last records of all validators fit into
the budget together (`entries_eq`).  If entries are good for no time at all, nothing is ever found,
and looking for a record removes its entry (`find_of_isStale`).

* `hits_are_last_writes`: lookups in any cache that can be reached.
-/

namespace OffChain.Cache

variable {c : Cache}

/-! ### Entries that stay good -/

/-- **Hits**: what the last records of all validators are, from some point on, is the record of each
of these validators. -/
theorem recordOf?_eq_lastOf? {ws : List Writing} (h : c.entries <:+ entriesOf (latest ws))
    {id : UInt256} {info : ValidatorInfo} (hinfo : c.recordOf? id = some info) :
    lastOf? ws id = some info := by
  obtain ⟨e, hfind, hdecode⟩ := Option.bind_eq_some_iff.mp hinfo
  obtain ⟨w, hw, rfl⟩ := List.mem_map.mp (h.subset (List.mem_of_find?_eq_some hfind))
  -- the entry has the key of this validator, so the record is of it
  have hkey := List.find?_some hfind
  have hid : w.id = id := keyOf_inj.mp (beq_iff_eq.mp hkey)
  have hinfo : w.info = info := by
    rw [Writing.entry, decode?_encode] at hdecode
    exact Option.some.inj hdecode
  rw [← hid, ← hinfo]
  exact mem_latest_iff.mp hw

/-- If all last records are there, each of them is found. -/
theorem recordOf?_of_entries_eq {ws : List Writing} (h : c.entries = entriesOf (latest ws))
    (id : UInt256) : c.recordOf? id = lastOf? ws id := by
  have hsuffix : c.entries <:+ entriesOf (latest ws) := h ▸ List.suffix_refl c.entries
  cases hlast : lastOf? ws id with
  | none =>
    cases hrecord : c.recordOf? id with
    | none => rfl
    | some info => exact (recordOf?_eq_lastOf? hsuffix hrecord).symm.trans hlast
  | some info =>
    have hmem : (⟨id, info⟩ : Writing) ∈ latest ws := mem_latest_iff.mpr hlast
    have hfound : (c.entries.find? fun e => e.key == keyOf id).isSome = true := by
      rw [h, List.find?_isSome]
      exact ⟨_, List.mem_map_of_mem hmem, beq_self_eq_true (keyOf id)⟩
    obtain ⟨e, he⟩ := Option.isSome_iff_exists.mp hfound
    obtain ⟨w, -, rfl⟩ := List.mem_map.mp (h ▸ List.mem_of_find?_eq_some he)
    have hrecord : c.recordOf? id = some w.info := by
      rw [recordOf?, he, Option.bind_some, Writing.entry, decode?_encode]
    rw [hrecord, ← recordOf?_eq_lastOf? hsuffix hrecord, hlast]

/-- **Step**: if the last records fit after a call as well, none of them has to go for it. -/
theorem Sound.entries_eq_after (h : c.Sound) (hgood : c.isStale = false) {ws : List Writing}
    (hws : c.entries = entriesOf (latest ws)) (call : Call)
    (hfits : totalSize (entriesOf (latest (ws ++ c.written call))) ≤ c.budget) :
    (c.after call).entries = entriesOf (latest (ws ++ c.written call)) := by
  cases call with
  | insert id info =>
    cases hinsert : c.insert id info with
    | error e =>
      obtain ⟨hwritten, hafter⟩ := written_insert_of_error hinsert
      rw [hwritten, hafter, List.append_nil]
      exact hws
    | ok next =>
      obtain ⟨hwritten, hafter⟩ := written_insert_of_ok hinsert
      obtain ⟨kept, hkept, hentries⟩ := h.insert_keepsMost hgood hinsert
      have hlatest : entriesOf (latest (ws ++ c.written (.insert id info)))
          = (c.entries.filter fun e => e.key != keyOf id) ++ [⟨keyOf id, encode info⟩] := by
        rw [hwritten, latest_concat, hws, filter_entriesOf, entriesOf, entriesOf, List.map_append]
        rfl
      have hall : kept = c.entries.filter fun e => e.key != keyOf id := by
        rw [hlatest, totalSize_append] at hfits
        exact hkept.eq_of_fits hfits
      rw [hafter, hentries, hlatest, hall]
  | find id =>
    rw [Cache.after, find_fst_of_good hgood, written, List.append_nil]
    exact hws

/-- **Run**: as long as the last records of all validators fit, the cache holds all of them. -/
theorem entries_eq {lifetime : Nat} (hlifetime : lifetime ≠ 0) (budget : Nat) (calls : List Call)
    (hfits : ∀ earlier, earlier <+: calls →
      totalSize (entriesOf (latest ((empty lifetime budget).writtenAll earlier))) ≤ budget) :
    ((empty lifetime budget).afterAll calls).entries
      = entriesOf (latest ((empty lifetime budget).writtenAll calls)) := by
  induction calls using List.reverseRecOn with
  | nil => rfl
  | append_singleton calls call ih =>
    have hbefore := ih fun earlier h => hfits earlier (h.trans (List.prefix_append calls [call]))
    obtain ⟨hsound, hbudget⟩ := (empty_sound lifetime budget).afterAll calls
    have hgood := isStale_afterAll_of_ne hlifetime budget calls
    have hnow := hfits (calls ++ [call]) (List.prefix_refl _)
    rw [writtenAll_concat] at hnow
    rw [afterAll_concat, writtenAll_concat]
    exact hsound.entries_eq_after hgood hbefore call (hbudget ▸ hnow)

/-! ### Entries that are good for no time -/

/-- **Expiry**: nothing is found, and no entry of the validator is left. -/
theorem find_of_isStale (h : c.isStale = true) (id : UInt256) :
    (c.find id).value.2 = none ∧ ¬(c.find id).value.1.Holds id := by
  unfold find
  cases hentry : c.entries.find? fun e => e.key == keyOf id with
  | none =>
    refine ⟨rfl, fun ⟨e, he, hkey⟩ => ?_⟩
    exact List.find?_eq_none.mp hentry e he (beq_iff_eq.mpr hkey)
  | some e =>
    have hkey := List.find?_some hentry
    dsimp only
    rw [h, if_pos rfl]
    refine ⟨rfl, fun ⟨f, hf, hsame⟩ => ?_⟩
    have herased : f ∈ (c.erase e.key).entries := hf
    exact key_ne_of_mem_erase herased (hsame.trans (beq_iff_eq.mp hkey).symm)

/-- **Lookups**: in every cache that can be reached, what is found is the record of that validator
that was kept last.  If entries are good for no time, nothing is found, and the entry is removed.
If they stay good and the last records of all validators always fitted into the budget together, the
last record of every validator is found, and nothing for a validator of which none was kept. -/
theorem hits_are_last_writes (lifetime budget : Nat) (calls : List Call) (id : UInt256) :
    let c := (empty lifetime budget).afterAll calls
    let kept := (empty lifetime budget).writtenAll calls
    (∀ info, (c.find id).value.2 = some info → lastOf? kept id = some info) ∧
    (lifetime = 0 → (c.find id).value.2 = none ∧ ¬(c.find id).value.1.Holds id) ∧
    (lifetime ≠ 0 →
      (∀ earlier, earlier <+: calls →
        totalSize (entriesOf (latest ((empty lifetime budget).writtenAll earlier))) ≤ budget) →
      (c.find id).value.2 = lastOf? kept id) := by
  intro c kept
  have hlifetime : c.isStale = (lifetime == 0) := isStale_afterAll lifetime budget calls
  refine ⟨fun info hinfo => ?_, fun hzero => ?_, fun hne hfits => ?_⟩
  · cases hstale : c.isStale with
    | true =>
      rw [(find_of_isStale hstale id).1] at hinfo
      cases hinfo
    | false =>
      rw [find_value hstale] at hinfo
      rw [hlifetime, beq_eq_false_iff_ne] at hstale
      exact recordOf?_eq_lastOf? (entries_suffix hstale budget calls) hinfo
  · exact find_of_isStale (hlifetime.trans (beq_iff_eq.mpr hzero)) id
  · rw [find_value (hlifetime.trans (beq_eq_false_iff_ne.mpr hne))]
    exact recordOf?_of_entries_eq (entries_eq hne budget calls hfits) id

/-- The room that so many short names take. -/
def roomFor (names : Nat) : Nat :=
  names * (encode (Archive.named "A")).utf8ByteSize

/-- Names of two validators, and then a new one of the first. -/
def threeNames : List Call :=
  [.insert 1 (Archive.named "A"), .insert 2 (Archive.named "B"), .insert 1 (Archive.named "C")]

/-- With room for one name the new one is found, although others had to go in between; with room for
two both last names are found, and none of a third validator; and nothing is found if entries are
good for no time. -/
theorem new_name_is_found :
    ((((empty 1 (roomFor 1)).afterAll threeNames).find 1).value.2 = some (Archive.named "C") ∧
      lastOf? ((empty 1 (roomFor 1)).writtenAll threeNames) 1 = some (Archive.named "C")) ∧
    ((1 : Nat) ≠ 0 ∧
      (∀ earlier, earlier <+: threeNames →
        totalSize (entriesOf (latest ((empty 1 (roomFor 2)).writtenAll earlier))) ≤ roomFor 2) ∧
      (((empty 1 (roomFor 2)).afterAll threeNames).find 1).value.2 = some (Archive.named "C") ∧
      (((empty 1 (roomFor 2)).afterAll threeNames).find 2).value.2 = some (Archive.named "B") ∧
      (((empty 1 (roomFor 2)).afterAll threeNames).find 3).value.2 = none) ∧
    ((((empty 0 (roomFor 2)).afterAll threeNames).find 1).value.2 = none ∧
      ¬(((empty 0 (roomFor 2)).afterAll threeNames).find 1).value.1.Holds 1) := by
  have hhit : (((empty 1 (roomFor 1)).afterAll threeNames).find 1).value.2
      = some (Archive.named "C") := by
    decide +kernel
  have hfits : ∀ earlier, earlier <+: threeNames →
      totalSize (entriesOf (latest ((empty 1 (roomFor 2)).writtenAll earlier))) ≤ roomFor 2 := by
    simp only [← List.mem_inits]
    decide +kernel
  have hall : ∀ id, (((empty 1 (roomFor 2)).afterAll threeNames).find id).value.2
      = lastOf? ((empty 1 (roomFor 2)).writtenAll threeNames) id :=
    fun id => (hits_are_last_writes 1 (roomFor 2) threeNames id).2.2 (by decide) hfits
  refine ⟨⟨hhit, ?_⟩, ⟨by decide, hfits, ?_, ?_, ?_⟩, ?_⟩
  · exact (hits_are_last_writes 1 (roomFor 1) threeNames 1).1 _ hhit
  · exact (hall 1).trans (by decide +kernel)
  · exact (hall 2).trans (by decide +kernel)
  · exact (hall 3).trans (by decide +kernel)
  · exact (hits_are_last_writes 0 (roomFor 2) threeNames 1).2.1 rfl

end OffChain.Cache
