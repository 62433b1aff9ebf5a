import OffChain.Archive
import OffChain.Proofs.Cache.Accounts
import OffChain.Proofs.Json.Records

/-!
# The cache does not show

Every entry of the cache is the document of what the source says of just the validator whose key the
entry has (`Cache.Echoes`): keys of different validators differ, documents read back as the records
they were written for, and adding an entry leaves of the other ones some as they were.  So it makes
no difference to an answer whether it comes from the cache or from the source.

* `answer`: what the source has to say to a query, without a cache.
* `cache_is_transparent`: the answers of an archive to any queries are these, whatever the cache may
  hold and for however long.
-/

namespace OffChain

namespace Cache

/-- **Round trip**: what is kept of a record is the record. -/
theorem decode?_encode (info : ValidatorInfo) : decode? (encode info) = some info := by
  rw [decode?, encode, Json.parse?_render info.isProper_toJson, Option.bind_some,
    ValidatorInfo.ofJson?_toJson]

/-- A sound cache that holds nothing but what a source says. -/
structure Echoes (c : Cache) (source : InfoSource) : Prop where
  /-- The accounts are right. -/
  sound : c.Sound
  /-- An entry is what the source says of the validator of its key. -/
  entry : ∀ e ∈ c.entries, ∃ id said, e.key = keyOf id ∧ (source id).reply = .ok said ∧
    e.data = encode (said.getD .none)

variable {c : Cache} {source : InfoSource}

theorem empty_echoes (lifetime budget : Nat) (source : InfoSource) :
    (empty lifetime budget).Echoes source where
  sound := empty_sound lifetime budget
  entry := fun _ he => absurd he List.not_mem_nil

/-- What the source says may be added. -/
theorem Echoes.insert (h : c.Echoes source) {id : UInt256} {said : Option ValidatorInfo}
    (hsaid : (source id).reply = .ok said) {next : Cache}
    (hnext : c.insert id (said.getD .none) = .ok next) : next.Echoes source := by
  obtain ⟨hsound, -, kept, hkept, hentries⟩ := h.sound.insert hnext
  refine ⟨hsound, fun e he => ?_⟩
  rw [hentries, List.mem_append, List.mem_singleton] at he
  rcases he with hold | rfl
  · exact h.entry e (List.mem_filter.mp (hkept.subset hold)).1
  · exact ⟨id, said, rfl, hsaid, rfl⟩

/-- Looking a record up adds nothing. -/
theorem Echoes.find (h : c.Echoes source) (id : UInt256) : (c.find id).value.1.Echoes source := by
  rcases find_fst c id with hsame | herased
  · rw [hsame]
    exact h
  · rw [herased]
    exact ⟨(h.sound.releases_erase _).sound h.sound,
      fun e he => h.entry e (List.mem_filter.mp he).1⟩

/-- What is found is what the source says. -/
theorem Echoes.find_snd (h : c.Echoes source) {id : UInt256} {info : ValidatorInfo}
    (hinfo : (c.find id).value.2 = some info) :
    ∃ said, (source id).reply = .ok said ∧ info = said.getD .none := by
  unfold Cache.find at hinfo
  split at hinfo
  · cases hinfo
  · rename_i e he
    obtain ⟨owner, said, hkey, hsaid, hdata⟩ := h.entry e (List.mem_of_find?_eq_some he)
    -- the entry has this validator's key, so it is of this validator and not of another one
    have hsame := List.find?_some he
    rw [hkey, beq_iff_eq, keyOf_inj] at hsame
    subst hsame
    rw [hdata, decode?_encode] at hinfo
    split at hinfo
    · cases hinfo
    · exact ⟨said, hsaid, (Option.some.inj hinfo).symm⟩

end Cache

namespace Archive

/-! ### Queries -/

/-- A query for the metadata of a validator. -/
inductive Query where
  /-- As far as they can be had, from the cache or from the source. -/
  | find (id : UInt256)
  /-- As the source has them now. -/
  | fetch (id : UInt256)
deriving DecidableEq

/-- An answer. -/
inductive Answer where
  /-- The metadata, if they can be had. -/
  | found (info : Option ValidatorInfo)
  /-- The metadata, or why the source does not have them. -/
  | fetched (reply : Except SourceError ValidatorInfo)

/-- The archive after a query, and its answer. -/
def ask (archive : Archive) : Query → Archive × Answer
  | .find id =>
    let (next, info) := (archive.findInfo id).value
    (next, .found info)
  | .fetch id =>
    let (next, reply) := (archive.fetchInfo id).value
    (next, .fetched reply)

/-- The archive after some queries, first one first, and its answers. -/
def askAll : Archive → List Query → Archive × List Answer
  | archive, [] => (archive, [])
  | archive, query :: rest =>
    let (next, answer) := archive.ask query
    let (last, answers) := next.askAll rest
    (last, answer :: answers)

/-- What a source has to say to a query.  If the metadata are to be found, it is the record, if that
has a name; if they are to be fetched, it is the record, the empty one if there is none, or the
error. -/
def answer (source : InfoSource) : Query → Answer
  | .find id =>
    match (source id).reply with
    | .ok (some info) => .found (if info.name.isSome then some info else none)
    | .ok none => .found none
    | .error _ => .found none
  | .fetch id =>
    match (source id).reply with
    | .ok (some info) => .fetched (.ok info)
    | .ok none => .fetched (.ok .none)
    | .error e => .fetched (.error e)

theorem answer_find {source : InfoSource} {id : UInt256} {said : Option ValidatorInfo}
    (hsaid : (source id).reply = .ok said) :
    answer source (.find id) = .found (said.getD .none).orNone := by
  rw [answer, hsaid]
  cases said with
  | none => rfl
  | some info =>
    cases hname : info.name <;> simp [ValidatorInfo.orNone, ValidatorInfo.isEmpty, hname]

theorem answer_fetch (source : InfoSource) (id : UInt256) :
    answer source (.fetch id) = .fetched ((source id).reply.map fun said => said.getD .none) := by
  rw [answer]
  cases (source id).reply with
  | error e => rfl
  | ok said => cases said <;> rfl

/-! ### Archives over a source -/

/-- An archive over a source whose cache holds nothing but what the source says. -/
structure Relays (archive : Archive) (source : InfoSource) : Prop where
  /-- The source is that one. -/
  source_eq : archive.source = source
  /-- The cache agrees with it. -/
  echoes : archive.cache.Echoes source

variable {archive : Archive} {source : InfoSource}

theorem Relays.keepInfo (h : archive.Relays source) {id : UInt256} {said : Option ValidatorInfo}
    (hsaid : (source id).reply = .ok said) :
    (archive.keepInfo id (said.getD .none)).value.1.Relays source := by
  unfold Archive.keepInfo
  split
  · rename_i next hnext
    exact ⟨h.source_eq, h.echoes.insert hsaid hnext⟩
  · exact h

/-- **Fetching**: the reply is that of the source, whether or not it can be kept. -/
theorem Relays.fetchInfo (h : archive.Relays source) (id : UInt256) :
    (archive.fetchInfo id).value.1.Relays source ∧
      (archive.fetchInfo id).value.2 = (source id).reply.map fun said => said.getD .none := by
  have hasked : Relays { archive with asked := archive.asked ++ [id] } source :=
    ⟨h.source_eq, h.echoes⟩
  have hreply : (archive.askSource id).value
      = ({ archive with asked := archive.asked ++ [id] }, (source id).reply) := by
    rw [← h.source_eq]
    rfl
  unfold Archive.fetchInfo
  rw [Logged.value_bind, hreply]
  cases hsaid : (source id).reply with
  | error e => exact ⟨hasked, rfl⟩
  | ok said => exact ⟨hasked.keepInfo hsaid, rfl⟩

/-- **Finding**: a hit answers as the source would, and a miss asks it. -/
theorem Relays.findInfo (h : archive.Relays source) (id : UInt256) :
    (archive.findInfo id).value.1.Relays source ∧
      .found (archive.findInfo id).value.2 = answer source (.find id) := by
  have hlooked : (archive.cachedInfo id).value.1.Relays source :=
    ⟨h.source_eq, h.echoes.find id⟩
  have hhit : ∀ info, (archive.cachedInfo id).value.2 = some info →
      answer source (.find id) = .found info.orNone := by
    intro info hinfo
    obtain ⟨said, hsaid, rfl⟩ := h.echoes.find_snd hinfo
    exact answer_find hsaid
  unfold Archive.findInfo
  rw [Logged.value_bind]
  generalize (archive.cachedInfo id).value = lookup at hlooked hhit ⊢
  obtain ⟨looked, cached⟩ := lookup
  cases cached with
  | some info => exact ⟨hlooked, (hhit info rfl).symm⟩
  | none =>
    obtain ⟨hfetched, hreply⟩ := hlooked.fetchInfo id
    dsimp only at hfetched hreply ⊢
    rw [Logged.value_bind]
    generalize (looked.fetchInfo id).value = result at hfetched hreply ⊢
    obtain ⟨fetched, reply⟩ := result
    obtain rfl : reply = _ := hreply
    cases hsaid : (source id).reply with
    | error e =>
      rw [answer, hsaid]
      exact ⟨hfetched, rfl⟩
    | ok said =>
      rw [answer_find hsaid]
      exact ⟨hfetched, rfl⟩

theorem Relays.ask (h : archive.Relays source) (query : Query) :
    (archive.ask query).1.Relays source ∧ (archive.ask query).2 = answer source query := by
  cases query with
  | find id => exact h.findInfo id
  | fetch id =>
    obtain ⟨hnext, hreply⟩ := h.fetchInfo id
    refine ⟨hnext, ?_⟩
    rw [answer_fetch, ← hreply]
    rfl

theorem Relays.askAll (h : archive.Relays source) (queries : List Query) :
    (archive.askAll queries).2 = queries.map (answer source) := by
  induction queries generalizing archive with
  | nil => rfl
  | cons query rest ih =>
    obtain ⟨hnext, hanswer⟩ := h.ask query
    rw [List.map_cons, ← hanswer, ← ih hnext]
    rfl

end Archive

/-- **Transparency**: an archive whose cache is empty at first answers any queries as its source
would, whatever its cache may hold and for however long. -/
theorem cache_is_transparent (archive : Archive) (lifetime budget : Nat)
    (queries : List Archive.Query) :
    (Archive.askAll { archive with cache := .empty lifetime budget } queries).2
      = queries.map (Archive.answer archive.source) := by
  have hrelays : Archive.Relays { archive with cache := .empty lifetime budget } archive.source :=
    ⟨rfl, Cache.empty_echoes lifetime budget archive.source⟩
  exact hrelays.askAll queries

end OffChain
