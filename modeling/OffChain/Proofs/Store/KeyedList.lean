import Mathlib.Data.Finmap

/-!
# Lists of records as finite maps

A table keeps at most one record of each key, in some order.  `IsTableOf key records m` says that
the list `records` is such a table and holds what the finite map `m` holds.  The changes that the
store makes to a table are the changes of the map: a new record at the end
(`IsTableOf.insert_new`), a record in the place of that of its key (`IsTableOf.insert_put`), a
record changed where it stands (`IsTableOf.insert_modify`).  Searching a table or its rows is
looking up (`IsTableOf.find?_eq`, `IsTableOf.find?_map`), and counting them is counting keys
(`IsTableOf.card_keys`, `IsTableOf.card_filter`).  Any list of records of different keys is a table
(`IsTableOf.exists_of_nodup`).
-/

namespace OffChain

variable {α κ : Type} [DecidableEq κ]

/-- A list of records, no two of one key, that holds what a finite map holds. -/
structure IsTableOf (key : α → κ) (records : List α) (m : Finmap fun _ : κ => α) : Prop where
  /-- No key occurs twice. -/
  nodup : (records.map key).Nodup
  /-- What is found under a key is the record of that key. -/
  lookup_iff : ∀ k a, m.lookup k = some a ↔ a ∈ records ∧ key a = k

namespace IsTableOf

variable {key : α → κ} {records : List α} {m : Finmap fun _ : κ => α}

theorem empty (key : α → κ) : IsTableOf key [] ∅ :=
  ⟨List.nodup_nil, fun k a => by simp⟩

/-! ### Reading -/

theorem find?_eq (h : IsTableOf key records m) (k : κ) :
    records.find? (fun a => key a == k) = m.lookup k := by
  cases hfind : records.find? (fun a => key a == k) with
  | none =>
    rw [List.find?_eq_none] at hfind
    cases hlookup : m.lookup k with
    | none => rfl
    | some a =>
      obtain ⟨hmem, hkey⟩ := (h.lookup_iff k a).mp hlookup
      exact absurd (beq_iff_eq.mpr hkey) (hfind a hmem)
  | some a =>
    have hkey : key a = k := by simpa using List.find?_some hfind
    exact ((h.lookup_iff k a).mpr ⟨List.mem_of_find?_eq_some hfind, hkey⟩).symm

theorem key_ne_of_lookup_eq_none (h : IsTableOf key records m) {k : κ} (hk : m.lookup k = none) :
    ∀ a ∈ records, key a ≠ k := by
  intro a ha hkey
  have hsome := (h.lookup_iff k a).mpr ⟨ha, hkey⟩
  rw [hk] at hsome
  exact absurd hsome (Option.some_ne_none a).symm

theorem mem_keys_iff (h : IsTableOf key records m) (k : κ) :
    k ∈ m.keys ↔ k ∈ records.map key := by
  rw [Finmap.mem_keys, Finmap.mem_iff, List.mem_map]
  exact exists_congr fun a => h.lookup_iff k a

/-- A table has as many rows as the map has keys. -/
theorem card_keys (h : IsTableOf key records m) : m.keys.card = records.length := by
  have hkeys : m.keys = (records.map key).toFinset := by
    ext k
    rw [h.mem_keys_iff, List.mem_toFinset]
  rw [hkeys, List.toFinset_card_of_nodup h.nodup, List.length_map]

/-- A table has as many rows with a property as the map has keys of records with it. -/
theorem card_filter (h : IsTableOf key records m) (p : α → Bool) :
    (m.keys.filter fun k => (m.lookup k).any p = true).card = records.countP p := by
  have hkeys : (m.keys.filter fun k => (m.lookup k).any p = true)
      = ((records.filter p).map key).toFinset := by
    ext k
    rw [Finset.mem_filter, List.mem_toFinset, List.mem_map]
    constructor
    · rintro ⟨-, hany⟩
      obtain ⟨a, ha, hp⟩ := (Option.any_eq_true _ _).mp hany
      obtain ⟨hmem, hkey⟩ := (h.lookup_iff k a).mp ha
      exact ⟨a, List.mem_filter.mpr ⟨hmem, hp⟩, hkey⟩
    · rintro ⟨a, ha, hkey⟩
      obtain ⟨hmem, hp⟩ := List.mem_filter.mp ha
      have hlookup := (h.lookup_iff k a).mpr ⟨hmem, hkey⟩
      refine ⟨(h.mem_keys_iff k).mpr (List.mem_map.mpr ⟨a, hmem, hkey⟩), ?_⟩
      rw [hlookup, Option.any_some]
      exact hp
  have hnodup : ((records.filter p).map key).Nodup :=
    h.nodup.sublist (List.filter_sublist.map key)
  rw [hkeys, List.toFinset_card_of_nodup hnodup, List.length_map, List.countP_eq_length_filter]

/-! ### Rows of records -/

/-- Searching the rows of a table, where the text of a key tells whose row it is. -/
theorem find?_map {ρ : Type} (h : IsTableOf key records m) {row : α → ρ} {isOf : ρ → Bool} {k : κ}
    (hisOf : ∀ a, isOf (row a) = (key a == k)) :
    (records.map row).find? isOf = (m.lookup k).map row := by
  have hsame : isOf ∘ row = fun a => key a == k := funext hisOf
  rw [List.find?_map, hsame, h.find?_eq]

theorem any_map {ρ : Type} (h : IsTableOf key records m) {row : α → ρ} {isOf : ρ → Bool} {k : κ}
    (hisOf : ∀ a, isOf (row a) = (key a == k)) :
    (records.map row).any isOf = (m.lookup k).isSome := by
  rw [← List.isSome_find?, h.find?_map hisOf, Option.isSome_map]

/-! ### Changing -/

/-- A record of a new key goes to the end. -/
theorem insert_new (h : IsTableOf key records m) {b : α} (hnew : ∀ a ∈ records, key a ≠ key b) :
    IsTableOf key (records ++ [b]) (m.insert (key b) b) := by
  constructor
  · rw [List.map_append, List.nodup_append]
    refine ⟨h.nodup, List.nodup_singleton _, ?_⟩
    intro k hk l hl
    obtain ⟨a, ha, rfl⟩ := List.mem_map.mp hk
    rw [List.map_singleton, List.mem_singleton] at hl
    rw [hl]
    exact hnew a ha
  · intro k a
    rw [List.mem_append, List.mem_singleton]
    by_cases hk : k = key b
    · rw [hk, Finmap.lookup_insert, Option.some.injEq]
      constructor
      · rintro rfl
        exact ⟨Or.inr rfl, rfl⟩
      · rintro ⟨ha | rfl, hkey⟩
        · exact absurd hkey (hnew a ha)
        · rfl
    · rw [Finmap.lookup_insert_of_ne _ hk, h.lookup_iff]
      constructor
      · rintro ⟨ha, hkey⟩
        exact ⟨Or.inl ha, hkey⟩
      · rintro ⟨ha | rfl, hkey⟩
        · exact ⟨ha, hkey⟩
        · exact absurd hkey.symm hk

/-- A record goes to the end, and one of the same key goes away. -/
theorem insert_put (h : IsTableOf key records m) (b : α) :
    IsTableOf key (records.filter (fun a => key a != key b) ++ [b]) (m.insert (key b) b) := by
  -- The records that stay are the map without the key; to them the record is new.
  have hothers : IsTableOf key (records.filter fun a => key a != key b) (m.erase (key b)) := by
    refine ⟨h.nodup.sublist (List.filter_sublist.map key), fun k a => ?_⟩
    rw [List.mem_filter, bne_iff_ne]
    by_cases hk : k = key b
    · rw [hk, Finmap.lookup_erase]
      constructor
      · exact fun hnone => absurd hnone (Option.some_ne_none a).symm
      · rintro ⟨⟨-, hne⟩, hkey⟩
        exact absurd hkey hne
    · rw [Finmap.lookup_erase_ne hk, h.lookup_iff]
      constructor
      · rintro ⟨ha, rfl⟩
        exact ⟨⟨ha, hk⟩, rfl⟩
      · rintro ⟨⟨ha, -⟩, hkey⟩
        exact ⟨ha, hkey⟩
  have hnew : ∀ a ∈ records.filter (fun a => key a != key b), key a ≠ key b :=
    fun a ha => bne_iff_ne.mp (List.mem_filter.mp ha).2
  have hsame : (m.erase (key b)).insert (key b) b = m.insert (key b) b := by
    refine Finmap.ext_lookup fun k => ?_
    by_cases hk : k = key b
    · rw [hk, Finmap.lookup_insert, Finmap.lookup_insert]
    · rw [Finmap.lookup_insert_of_ne _ hk, Finmap.lookup_insert_of_ne _ hk,
        Finmap.lookup_erase_ne hk]
  rw [← hsame]
  exact hothers.insert_new hnew

/-- A record changes where it stands and keeps its key. -/
theorem insert_modify (h : IsTableOf key records m) {f : α → α} (hf : ∀ a, key (f a) = key a)
    {k : κ} {old : α} (hold : m.lookup k = some old) :
    IsTableOf key (records.map fun a => if key a == k then f a else a) (m.insert k (f old)) := by
  have hkeys : ∀ a, key (if key a == k then f a else a) = key a := by
    intro a
    split
    · exact hf a
    · rfl
  obtain ⟨hmem, hkey⟩ := (h.lookup_iff k old).mp hold
  have hunique : ∀ a ∈ records, key a = k → a = old := by
    intro a ha hka
    have hsome := (h.lookup_iff k a).mpr ⟨ha, hka⟩
    rw [hold] at hsome
    exact (Option.some.inj hsome).symm
  constructor
  · rw [List.map_map]
    simp only [Function.comp_def, hkeys]
    exact h.nodup
  · intro l b
    rw [List.mem_map]
    by_cases hl : l = k
    · rw [hl, Finmap.lookup_insert, Option.some.injEq]
      constructor
      · rintro rfl
        exact ⟨⟨old, hmem, if_pos (beq_iff_eq.mpr hkey)⟩, (hf old).trans hkey⟩
      · rintro ⟨⟨a, ha, rfl⟩, hb⟩
        rw [hkeys] at hb
        rw [hunique a ha hb, if_pos (beq_iff_eq.mpr hkey)]
    · rw [Finmap.lookup_insert_of_ne _ hl, h.lookup_iff]
      constructor
      · rintro ⟨hb, rfl⟩
        exact ⟨⟨b, hb, if_neg fun hbk => hl (beq_iff_eq.mp hbk)⟩, rfl⟩
      · rintro ⟨⟨a, ha, rfl⟩, hb⟩
        rw [hkeys] at hb
        rw [if_neg fun hak => hl (hb.symm.trans (beq_iff_eq.mp hak))]
        exact ⟨ha, hb⟩

/-- Every list of records of different keys is a table. -/
theorem exists_of_nodup (h : (records.map key).Nodup) :
    ∃ m : Finmap fun _ : κ => α, IsTableOf key records m := by
  induction records using List.reverseRecOn with
  | nil => exact ⟨∅, empty key⟩
  | append_singleton records b ih =>
    rw [List.map_append, List.nodup_append] at h
    obtain ⟨hrecords, -, hnew⟩ := h
    obtain ⟨m, hm⟩ := ih hrecords
    refine ⟨_, hm.insert_new fun a ha => ?_⟩
    exact hnew _ (List.mem_map_of_mem ha) _ (List.mem_singleton_self _)

end IsTableOf

end OffChain
