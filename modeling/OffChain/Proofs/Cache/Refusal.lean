import OffChain.Proofs.Cache.Transparency

/-!
# What is found after fetching

A record that was fetched is kept, so that it is what is found next.  But a record whose document
exceeds the whole budget is refused, and then an earlier record of the validator is still there, and
that one is found.

* `Archive.Activity`, `Archive.afterAll`: what is done to an archive over a source that may change
  its mind.
* `Archive.found_after_fetched`: what is found next, in any archive that is reached.
* `Archive.found_is_outdated`: an archive where it is not what was fetched.
-/

namespace OffChain

namespace Cache

variable {c : Cache}

/-! ### Lookups -/

/-- The record that a cache has of a validator. -/
def recordOf? (c : Cache) (id : UInt256) : Option ValidatorInfo :=
  (c.entries.find? fun e => e.key == keyOf id).bind fun e => decode? e.data

/-- While entries are good, looking a record up changes nothing. -/
theorem find_value (h : c.isStale = false) (id : UInt256) :
    (c.find id).value = (c, c.recordOf? id) := by
  unfold find recordOf?
  cases hentry : c.entries.find? fun e => e.key == keyOf id with
  | none => rfl
  | some e =>
    dsimp only [Option.bind_some]
    rw [h, if_neg Bool.false_ne_true]
    cases decode? e.data with
    | none => rfl
    | some info => rfl

/-- What a cache has of a validator after a record of it was to be kept: that record, unless it is
refused. -/
theorem Sound.recordOf?_after (h : c.Sound) (id : UInt256) (info : ValidatorInfo) :
    (c.after (.insert id info)).recordOf? id
      = if c.budget < (encode info).utf8ByteSize then c.recordOf? id else some info := by
  rcases Nat.lt_or_ge c.budget (encode info).utf8ByteSize with hlt | hle
  · rw [Cache.after, insert_of_lt hlt, if_pos hlt]
  · have hinsert : c.insert id info = .ok _ := insert_of_le hle
    obtain ⟨-, -, kept, hkept, hentries⟩ := h.insert hinsert
    -- what is behind the new entry was of other validators
    have hothers : kept.find? (fun e => e.key == keyOf id) = none := by
      refine List.find?_eq_none.mpr fun e he => ?_
      rw [beq_iff_eq]
      exact key_ne_of_mem_erase (hkept.subset he)
    rw [Cache.after, hinsert, if_neg (Nat.not_lt.mpr hle)]
    dsimp only
    rw [recordOf?, hentries, List.find?_append, hothers, Option.none_or, List.find?_singleton,
      if_pos (beq_self_eq_true _), Option.bind_some, decode?_encode]

/-! ### Lifetimes -/

theorem lifetime_trimFor (c : Cache) (incoming : Nat) :
    (c.trimFor incoming).lifetime = c.lifetime := by
  have hstale : c.eraseStale.lifetime = c.lifetime := by
    unfold eraseStale
    split <;> rfl
  unfold trimFor
  split
  · rfl
  · exact hstale

theorem lifetime_insert {id : UInt256} {info : ValidatorInfo} {next : Cache}
    (h : c.insert id info = .ok next) : next.lifetime = c.lifetime := by
  have hle : (encode info).utf8ByteSize ≤ c.budget := by
    refine Nat.not_lt.mp fun hlt => ?_
    rw [insert_of_lt hlt] at h
    cases h
  have htrimmed := lifetime_trimFor (c.erase (keyOf id)) (encode info).utf8ByteSize
  rw [insert_of_le hle] at h
  generalize (c.erase (keyOf id)).trimFor (encode info).utf8ByteSize = room at *
  obtain rfl := Except.ok.inj h
  exact htrimmed

/-- A call leaves alone for how long entries are good. -/
theorem lifetime_after (c : Cache) (call : Call) : (c.after call).lifetime = c.lifetime := by
  cases call with
  | insert id info =>
    unfold after
    dsimp only
    split
    · rename_i next hnext
      exact lifetime_insert hnext
    · rfl
  | find id =>
    show (c.find id).value.1.lifetime = c.lifetime
    rcases find_fst c id with hsame | herased
    · rw [hsame]
    · rw [herased]
      rfl

theorem lifetime_afterAll (c : Cache) (calls : List Call) :
    (c.afterAll calls).lifetime = c.lifetime := by
  induction calls generalizing c with
  | nil => rfl
  | cons call calls ih => exact (ih (c.after call)).trans (lifetime_after c call)

end Cache

namespace Archive

/-! ### Activities -/

/-- What is done to an archive, and what happens to its source. -/
inductive Activity where
  /-- The record of a validator is kept. -/
  | keep (id : UInt256) (info : ValidatorInfo)
  /-- A query is made. -/
  | ask (query : Query)
  /-- The source says something else from now on. -/
  | turn (source : InfoSource)

/-- The archive after an activity. -/
def after (archive : Archive) : Activity → Archive
  | .keep id info => (archive.keepInfo id info).value.1
  | .ask query => (archive.ask query).1
  | .turn source => { archive with source := source }

/-- The archive after some activities, first one first. -/
def afterAll (archive : Archive) (activities : List Activity) : Archive :=
  activities.foldl after archive

variable {archive : Archive}

/-- Keeping a record is one call of the cache. -/
theorem keepInfo_fst (archive : Archive) (id : UInt256) (info : ValidatorInfo) :
    (archive.keepInfo id info).value.1
      = { archive with cache := archive.cache.after (.insert id info) } := by
  unfold keepInfo Cache.after
  dsimp only
  cases archive.cache.insert id info with
  | ok next => rfl
  | error e => rfl

/-- Fetching asks the source, and keeps what it says. -/
theorem fetchInfo_value (archive : Archive) (id : UInt256) :
    (archive.fetchInfo id).value =
      match (archive.source id).reply with
      | .error e => ({ archive with asked := archive.asked ++ [id] }, .error e)
      | .ok said =>
        ({ archive with
            cache := archive.cache.after (.insert id (said.getD .none))
            asked := archive.asked ++ [id] }, .ok (said.getD .none)) := by
  have hasked : (archive.askSource id).value
      = ({ archive with asked := archive.asked ++ [id] }, (archive.source id).reply) := rfl
  unfold fetchInfo
  rw [Logged.value_bind, hasked]
  cases (archive.source id).reply with
  | error e => rfl
  | ok said =>
    dsimp only
    rw [Logged.value_bind, Logged.value_pure, keepInfo_fst]

/-- Finding looks into the cache first. -/
theorem findInfo_value (archive : Archive) (id : UInt256) :
    (archive.findInfo id).value =
      match archive.cachedInfo id |>.value with
      | (looked, some info) => (looked, info.orNone)
      | (looked, none) =>
        match (looked.fetchInfo id).value with
        | (fetched, .ok info) => (fetched, info.orNone)
        | (fetched, .error _) => (fetched, none) := by
  unfold findInfo
  rw [Logged.value_bind]
  generalize (archive.cachedInfo id).value = lookup
  obtain ⟨looked, cached⟩ := lookup
  cases cached with
  | some info => rfl
  | none =>
    dsimp only
    rw [Logged.value_bind]
    generalize (looked.fetchInfo id).value = result
    obtain ⟨fetched, reply⟩ := result
    cases reply <;> rfl

/-! ### Archives that are reached -/

theorem cache_fetchInfo (archive : Archive) (id : UInt256) :
    ∃ calls, (archive.fetchInfo id).value.1.cache = archive.cache.afterAll calls := by
  rw [fetchInfo_value]
  cases (archive.source id).reply with
  | error e => exact ⟨[], rfl⟩
  | ok said => exact ⟨[.insert id (said.getD .none)], rfl⟩

theorem cache_findInfo (archive : Archive) (id : UInt256) :
    ∃ calls, (archive.findInfo id).value.1.cache = archive.cache.afterAll calls := by
  have hlooked : (archive.cachedInfo id).value.1.cache = archive.cache.afterAll [.find id] := rfl
  rw [findInfo_value]
  generalize (archive.cachedInfo id).value = lookup at hlooked ⊢
  obtain ⟨looked, cached⟩ := lookup
  cases cached with
  | some info => exact ⟨[.find id], hlooked⟩
  | none =>
    obtain ⟨calls, hfetched⟩ := looked.cache_fetchInfo id
    dsimp only at hlooked ⊢
    generalize (looked.fetchInfo id).value = result at hfetched ⊢
    obtain ⟨fetched, reply⟩ := result
    have hcache : fetched.cache = archive.cache.afterAll (.find id :: calls) := by
      rw [hfetched, hlooked]
      rfl
    cases reply with
    | ok info => exact ⟨_, hcache⟩
    | error e => exact ⟨_, hcache⟩

/-- **Step**: all that happens to the cache is that it is called. -/
theorem cache_after (archive : Archive) (activity : Activity) :
    ∃ calls, (archive.after activity).cache = archive.cache.afterAll calls := by
  cases activity with
  | keep id info =>
    rw [after, keepInfo_fst]
    exact ⟨[.insert id info], rfl⟩
  | ask query =>
    cases query with
    | find id => exact archive.cache_findInfo id
    | fetch id => exact archive.cache_fetchInfo id
  | turn source => exact ⟨[], rfl⟩

/-- **Run**: the cache of an archive that is reached is one that calls lead to. -/
theorem cache_afterAll (archive : Archive) (activities : List Activity) :
    ∃ calls, (archive.afterAll activities).cache = archive.cache.afterAll calls := by
  induction activities generalizing archive with
  | nil => exact ⟨[], rfl⟩
  | cons activity activities ih =>
    obtain ⟨first, hfirst⟩ := archive.cache_after activity
    obtain ⟨rest, hrest⟩ := ih (archive.after activity)
    refine ⟨first ++ rest, hrest.trans ?_⟩
    rw [hfirst, Cache.afterAll, Cache.afterAll, Cache.afterAll, List.foldl_append]

/-! ### Finding after fetching -/

/-- While entries are good, looking a record up changes nothing. -/
theorem cachedInfo_of_good (h : archive.cache.isStale = false) (id : UInt256) :
    (archive.cachedInfo id).value = (archive, archive.cache.recordOf? id) := by
  unfold cachedInfo
  rw [Logged.value_bind, Cache.find_value h]
  rfl

/-- While entries are good, what is found is the record in the cache, else what the source says. -/
theorem findInfo_snd (h : archive.cache.isStale = false) (id : UInt256) :
    (archive.findInfo id).value.2 =
      match archive.cache.recordOf? id, (archive.source id).reply with
      | some info, _ => info.orNone
      | none, .ok said => (said.getD .none).orNone
      | none, .error _ => none := by
  rw [findInfo_value, cachedInfo_of_good h]
  cases archive.cache.recordOf? id with
  | some info => rfl
  | none =>
    dsimp only
    rw [fetchInfo_value]
    cases (archive.source id).reply with
    | error e => rfl
    | ok said => rfl

/-- What fetching leaves if the source replies. -/
theorem fetchInfo_of_ok {id : UInt256} {info : ValidatorInfo}
    (h : (archive.fetchInfo id).value.2 = .ok info) :
    (archive.fetchInfo id).value.1.source = archive.source ∧
      (archive.fetchInfo id).value.1.cache = archive.cache.after (.insert id info) ∧
      ∃ said, (archive.source id).reply = .ok said ∧ said.getD .none = info := by
  rw [fetchInfo_value] at h ⊢
  cases hsaid : (archive.source id).reply with
  | error e =>
    rw [hsaid] at h
    cases h
  | ok said =>
    rw [hsaid] at h
    obtain rfl := Except.ok.inj h
    exact ⟨rfl, rfl, said, rfl, rfl⟩

/-- **Law**: what is found after fetching is what was fetched, unless that exceeds the budget and an
earlier record is in the cache. -/
theorem findInfo_of_fetchInfo (hsound : archive.cache.Sound) (h : archive.cache.isStale = false)
    {id : UInt256} {info : ValidatorInfo} (hfetch : (archive.fetchInfo id).value.2 = .ok info) :
    ((archive.fetchInfo id).value.1.findInfo id).value.2 =
      ((if archive.cache.budget < (Cache.encode info).utf8ByteSize then archive.cache.recordOf? id
        else none).getD info).orNone := by
  obtain ⟨hsource, hcache, said, hsaid, rfl⟩ := fetchInfo_of_ok hfetch
  have hgood : (archive.fetchInfo id).value.1.cache.isStale = false := by
    rw [hcache, Cache.isStale, Cache.lifetime_after]
    exact h
  rw [findInfo_snd hgood, hcache, hsource, hsound.recordOf?_after, hsaid]
  by_cases hlt : archive.cache.budget < (Cache.encode (said.getD .none)).utf8ByteSize
  · rw [if_pos hlt, if_pos hlt]
    cases archive.cache.recordOf? id with
    | some old => rfl
    | none => rfl
  · rw [if_neg hlt, if_neg hlt]
    rfl

/-- **After fetching**: in any archive that is reached while entries are good, what is found next is
what was fetched, unless that exceeds the budget and an earlier record is in the cache. -/
theorem found_after_fetched (config : Config) (hlifetime : config.cacheLifetime ≠ 0)
    (store : Store) (source : InfoSource) (activities : List Activity) (id : UInt256)
    (info : ValidatorInfo)
    (hfetch : (((ofStore config store source).afterAll activities).fetchInfo id).value.2
      = .ok info) :
    ((((ofStore config store source).afterAll activities).fetchInfo id).value.1.findInfo id).value.2
      = ((if config.cacheBudget < (Cache.encode info).utf8ByteSize then
            (((ofStore config store source).afterAll activities).cachedInfo id).value.2
          else none).getD info).orNone := by
  obtain ⟨calls, hcache⟩ := (ofStore config store source).cache_afterAll activities
  have hcalls := (Cache.empty_sound config.cacheLifetime config.cacheBudget).afterAll calls
  have hsound : ((ofStore config store source).afterAll activities).cache.Sound :=
    hcache ▸ hcalls.1
  have hbudget : ((ofStore config store source).afterAll activities).cache.budget
      = config.cacheBudget := by
    rw [hcache]
    exact hcalls.2
  have hgood : ((ofStore config store source).afterAll activities).cache.isStale = false := by
    rw [hcache, Cache.isStale, Cache.lifetime_afterAll]
    exact beq_eq_false_iff_ne.mpr hlifetime
  have hcached : (((ofStore config store source).afterAll activities).cachedInfo id).value.2
      = ((ofStore config store source).afterAll activities).cache.recordOf? id := by
    unfold cachedInfo
    rw [Logged.value_bind, Cache.find_value hgood]
    rfl
  rw [findInfo_of_fetchInfo hsound hgood hfetch, hcached, hbudget]

/-! ### An outdated record -/

/-- A record with nothing but a name. -/
def named (name : String) : ValidatorInfo :=
  ⟨some name, none, none, none⟩

/-- A source that says the same of every validator. -/
def always (info : ValidatorInfo) : InfoSource :=
  fun _ => ⟨[], [], .ok (some info)⟩

/-- An archive whose cache has a record that the source has replaced by one with a longer name. -/
def outdated (config : Config) : Archive :=
  (ofStore config .empty (always (named "Alphabet"))).afterAll [.keep 1 (named "A")]

/-- A cache with enough room has the fetched record in the place of the other one. -/
theorem found_after_fetched_in_wide_cache :
    Config.standard.cacheLifetime ≠ 0 ∧
      ((outdated .standard).fetchInfo 1).value.2 = .ok (named "Alphabet") ∧
      (((outdated .standard).fetchInfo 1).value.1.findInfo 1).value.2
        = some (named "Alphabet") := by
  have hlifetime : Config.standard.cacheLifetime ≠ 0 := by decide
  have hfetch : ((outdated .standard).fetchInfo 1).value.2 = .ok (named "Alphabet") := by
    decide +kernel
  refine ⟨hlifetime, hfetch, ?_⟩
  have hfound := found_after_fetched .standard hlifetime .empty (always (named "Alphabet"))
    [.keep 1 (named "A")] 1 (named "Alphabet") hfetch
  refine hfound.trans ?_
  decide +kernel

/-- A cache that has room for the document of a short name only. -/
def narrow : Config :=
  { Config.standard with cacheBudget := 60 }

/-- **Staleness**: a narrow cache refuses the fetched record, and the other one is found again. -/
theorem found_is_outdated :
    ((outdated narrow).fetchInfo 1).value.2 = .ok (named "Alphabet") ∧
      (((outdated narrow).fetchInfo 1).value.1.findInfo 1).value.2 = some (named "A") ∧
      (named "Alphabet").name.isSome = true ∧ named "A" ≠ named "Alphabet" := by
  decide +kernel

end Archive

end OffChain
