import OffChain.Proofs.Classification.Channel
import OffChain.Proofs.Classification.Examination
import OffChain.Proofs.Store.Refinement

/-!
# Classifications are whole and stay

Transactions come into the store without a classification, and only examining writes one; what it
writes is whole (`Chronicle.isClassified_of_finds`).  So whatever is done to an archive, in whatever
order, a stored transaction is either without any classification or wholly classified, is otherwise
as it first came in, and does not lose a classification again: batches, accounts and contracts may
come in, calls may be examined or put through a channel, and calls of the store may fail in between.

* `Chronicle`: an archive together with all that was inserted into it.
* `Chronicle.Stands`: the invariant, in terms of the records that the store holds; each activity
  keeps it and what is classified (`Chronicle.Stands.after`).
* `classifications_are_whole_and_stay`: the result for the rows of every store that can be reached.
-/

namespace OffChain

/-! ### Classifications -/

namespace Transaction

/-- A transaction without a classification. -/
def IsUnclassified (trx : Transaction) : Prop :=
  trx.targetType = none ∧ trx.targetCall = none ∧ trx.isErc20Call = false

/-- A transaction with a classification. -/
def IsClassified (trx : Transaction) : Prop :=
  trx.targetType.isSome = true ∧ trx.targetCall.isSome = true

/-- What the chain recorded of a transaction. -/
def recorded (trx : Transaction) : Transaction :=
  { trx with targetType := none, targetCall := none, isErc20Call := false }

theorem IsUnclassified.recorded_eq {trx : Transaction} (h : trx.IsUnclassified) :
    trx.recorded = trx := by
  obtain ⟨htype, hcall, herc20⟩ := h
  rw [recorded, ← htype, ← hcall, ← herc20]

end Transaction

/-- Transactions as they are inserted. -/
abbrev NewTransaction := { trx : Transaction // trx.IsUnclassified }

/-! ### Activities -/

/-- What is done to an archive. -/
inductive Activity where
  /-- A batch of transactions is inserted. -/
  | insert (batch : List NewTransaction)
  /-- An account is kept. -/
  | keepAccount (account : Account)
  /-- A contract is kept. -/
  | keepContract (contract : Contract)
  /-- Other calls of the store are out of order from now on. -/
  | fail (calls : List StoreCall)
  /-- A transaction is examined. -/
  | examine (trx : Transaction)
  /-- Calls are put through a channel; feed, worker and the order to stop move as given. -/
  | work (capacity : Nat) (calls : List Transaction) (moves : List Classification.Channel.Move)

/-- An archive with all transactions that were inserted into it, first one first. -/
structure Chronicle where
  /-- The archive. -/
  archive : Archive
  /-- The transactions of all batches that were not refused. -/
  inserted : List Transaction

namespace Chronicle

/-- A fresh archive. -/
def start (config : Config) (source : InfoSource) : Chronicle :=
  ⟨.ofStore config .empty source, []⟩

/-- The chronicle with another store. -/
def withStore (c : Chronicle) (store : Store) : Chronicle :=
  { c with archive := { c.archive with store := store } }

/-- The chronicle after an operation of the store; one that fails changes nothing. -/
def perform (c : Chronicle) (op : Operation) : Chronicle :=
  match c.archive.store.perform op with
  | .ok (store, _) => c.withStore store
  | .error _ => c

/-- The chronicle after an activity; moves that are not possible change nothing. -/
def after (c : Chronicle) : Activity → Chronicle
  | .insert batch =>
    match c.archive.store.perform (.addTransactions (batch.map Subtype.val)) with
    | .ok (store, _) =>
      { c.withStore store with inserted := c.inserted ++ batch.map Subtype.val }
    | .error _ => c
  | .keepAccount account => c.perform (.keepAccount account)
  | .keepContract contract => c.perform (.keepContract contract)
  | .fail calls => { c with archive := { c.archive with outages := calls } }
  | .examine trx => { c with archive := (Classification.examine c.archive trx).value.1 }
  | .work capacity calls moves =>
    match (Classification.Channel.start capacity c.archive calls).run? moves with
    | some last => { c with archive := last.worker.archive }
    | none => c

/-- The chronicle after some activities, first one first. -/
def afterAll (c : Chronicle) (activities : List Activity) : Chronicle :=
  activities.foldl after c

end Chronicle

/-! ### Records -/

namespace Records

/-- Whether the transaction of a hash has the name of a function. -/
def knowsCall (r : Records) (hash : Hash) : Bool :=
  (r.transactions.lookup hash).any fun trx => trx.targetCall.isSome

/-- What a later state of some records keeps of their classifications. -/
def Retains (r s : Records) : Prop :=
  ∀ hash, r.knowsCall hash = true → s.knowsCall hash = true

variable {r s t : Records}

theorem Retains.refl (r : Records) : r.Retains r :=
  fun _ h => h

theorem Retains.trans (h : r.Retains s) (h' : s.Retains t) : r.Retains t :=
  fun hash hknown => h' hash (h hash hknown)

theorem lookup_learn (known : Finmap fun _ : Hash => Transaction) (trx : Transaction)
    (hash : Hash) :
    (learn known trx).lookup hash
      = (known.lookup hash).or (if trx.hash == hash then some trx else none) := by
  rw [learn]
  cases hknown : known.lookup trx.hash with
  | some old =>
    rw [Option.isSome_some, if_pos rfl]
    split
    · rename_i heq
      rw [← beq_iff_eq.mp heq, hknown]
      rfl
    · rw [Option.or_none]
  | none =>
    rw [Option.isSome_none, if_neg Bool.false_ne_true]
    split
    · rename_i heq
      rw [← beq_iff_eq.mp heq, Finmap.lookup_insert, hknown]
      rfl
    · rename_i hne
      have hother : hash ≠ trx.hash := fun heq => hne (beq_iff_eq.mpr heq.symm)
      rw [Finmap.lookup_insert_of_ne _ hother, Option.or_none]

/-- What is known of a hash after a batch: what was known before, and otherwise the first
transaction of the batch that has it. -/
theorem lookup_foldl_learn (batch : List Transaction) (known : Finmap fun _ : Hash => Transaction)
    (hash : Hash) :
    (batch.foldl learn known).lookup hash
      = (known.lookup hash).or (batch.find? fun trx => trx.hash == hash) := by
  induction batch generalizing known with
  | nil => exact Option.or_none.symm
  | cons trx batch ih =>
    rw [List.foldl_cons, ih, lookup_learn, Option.or_assoc, List.find?_cons]
    cases trx.hash == hash <;> rfl

/-- How some records stand to the transactions that were inserted. -/
structure Reflects (r : Records) (inserted : List Transaction) : Prop where
  /-- No classification is there in part. -/
  whole : ∀ hash trx, r.transactions.lookup hash = some trx →
    trx.IsUnclassified ∨ trx.IsClassified
  /-- What was recorded of a hash is what was inserted first. -/
  first : ∀ hash, (r.transactions.lookup hash).map Transaction.recorded
    = inserted.find? fun trx => trx.hash == hash

variable {inserted : List Transaction}

theorem reflects_empty : empty.Reflects [] where
  whole := fun hash trx h => by
    rw [empty, Finmap.lookup_empty] at h
    cases h
  first := fun hash => by
    rw [empty, Finmap.lookup_empty]
    rfl

/-- What does not change transactions. -/
theorem Reflects.of_transactions_eq (h : r.Reflects inserted)
    (htransactions : s.transactions = r.transactions) : s.Reflects inserted ∧ r.Retains s := by
  refine ⟨⟨?_, ?_⟩, fun hash hknown => ?_⟩
  · rw [htransactions]
    exact h.whole
  · rw [htransactions]
    exact h.first
  · rw [knowsCall, htransactions]
    exact hknown

/-- **Inserting**: a batch adds what it has first of a new hash, and nothing to a known one. -/
theorem Reflects.learn (h : r.Reflects inserted) {batch : List Transaction}
    (hbatch : ∀ trx ∈ batch, trx.IsUnclassified)
    (htransactions : s.transactions = batch.foldl Records.learn r.transactions) :
    s.Reflects (inserted ++ batch) ∧ r.Retains s := by
  refine ⟨⟨fun hash trx hlookup => ?_, fun hash => ?_⟩, fun hash hknown => ?_⟩
  · rw [htransactions, lookup_foldl_learn, Option.or_eq_some_iff] at hlookup
    rcases hlookup with hold | ⟨-, hnew⟩
    · exact h.whole hash trx hold
    · exact Or.inl (hbatch trx (List.mem_of_find?_eq_some hnew))
  · have hrecorded : (batch.find? fun trx => trx.hash == hash).map Transaction.recorded
        = batch.find? fun trx => trx.hash == hash := by
      cases hfind : batch.find? fun trx => trx.hash == hash with
      | none => rfl
      | some trx =>
        exact congrArg some (hbatch trx (List.mem_of_find?_eq_some hfind)).recorded_eq
    rw [htransactions, lookup_foldl_learn, Option.map_or, h.first, hrecorded, List.find?_append]
  · rw [knowsCall, htransactions, lookup_foldl_learn]
    rw [knowsCall] at hknown
    cases hold : r.transactions.lookup hash with
    | none =>
      rw [hold] at hknown
      cases hknown
    | some old =>
      rw [hold] at hknown
      exact hknown

/-- **Writing**: a classification replaces that of one transaction, and what was recorded of it
stays. -/
theorem Reflects.reclassify (h : r.Reflects inserted) {copy old : Transaction}
    (hcopy : copy.IsClassified) (hold : r.transactions.lookup copy.hash = some old)
    (htransactions : s.transactions
      = r.transactions.insert copy.hash (Records.reclassify copy old)) :
    s.Reflects inserted ∧ r.Retains s := by
  have hlookup : ∀ hash, s.transactions.lookup hash
      = if hash = copy.hash then some (Records.reclassify copy old)
        else r.transactions.lookup hash := by
    intro hash
    rw [htransactions]
    split
    · rename_i heq
      rw [heq, Finmap.lookup_insert]
    · rename_i hne
      rw [Finmap.lookup_insert_of_ne _ hne]
  refine ⟨⟨fun hash trx htrx => ?_, fun hash => ?_⟩, fun hash hknown => ?_⟩
  · rw [hlookup] at htrx
    split at htrx
    · obtain rfl := Option.some.inj htrx
      exact Or.inr hcopy
    · exact h.whole hash trx htrx
  · rw [hlookup, ← h.first]
    split
    · rename_i heq
      rw [heq, hold]
      rfl
    · rfl
  · rw [knowsCall, hlookup]
    split
    · exact hcopy.2
    · exact hknown

end Records

/-! ### The invariant -/

namespace Chronicle

/-- The store of a chronicle holds records, and these stand rightly to what was inserted. -/
structure Stands (c : Chronicle) (r : Records) : Prop where
  /-- The store holds them. -/
  holds : c.archive.store.Holds r
  /-- They are right. -/
  reflects : r.Reflects c.inserted

variable {c : Chronicle} {r : Records}

theorem stands_start (config : Config) (source : InfoSource) :
    (start config source).Stands .empty :=
  ⟨Store.holds_empty, Records.reflects_empty⟩

/-- Some records that a later chronicle stands for, with the classifications of earlier ones. -/
def Advances (r : Records) (next : Chronicle) : Prop :=
  ∃ s, next.Stands s ∧ r.Retains s

theorem Stands.advances_self (h : c.Stands r) : Advances r c :=
  ⟨r, h, .refl r⟩

/-- An operation of the store succeeds on the records too, and with them the invariant goes on. -/
theorem Stands.advances (h : c.Stands r) {op : Operation} {store : Store} {n : Option Nat}
    (hstore : c.archive.store.perform op = .ok (store, n)) {inserted : List Transaction}
    (hop : ∀ s m, r.perform op = .ok (s, m) → s.Reflects inserted ∧ r.Retains s) :
    Advances r { c.withStore store with inserted := inserted } := by
  have hagrees := Store.perform_agrees h.holds op
  rw [hstore] at hagrees
  cases hrecords : r.perform op with
  | error e =>
    rw [hrecords] at hagrees
    exact hagrees.elim
  | ok result =>
    obtain ⟨s, m⟩ := result
    rw [hrecords] at hagrees
    obtain ⟨hreflects, hretains⟩ := hop s m hrecords
    exact ⟨s, ⟨hagrees.2, hreflects⟩, hretains⟩

theorem Stands.perform (h : c.Stands r) {op : Operation}
    (hop : ∀ s m, r.perform op = .ok (s, m) → s.Reflects c.inserted ∧ r.Retains s) :
    Advances r (c.perform op) := by
  unfold Chronicle.perform
  split
  · rename_i store n hstore
    exact h.advances hstore hop
  · exact h.advances_self

theorem Stands.insert (h : c.Stands r) (batch : List NewTransaction) :
    Advances r (c.after (.insert batch)) := by
  have hnew : ∀ trx ∈ batch.map Subtype.val, trx.IsUnclassified := by
    intro trx htrx
    obtain ⟨new, -, rfl⟩ := List.mem_map.mp htrx
    exact new.property
  unfold after
  dsimp only
  split
  · rename_i store n hstore
    refine h.advances hstore fun s m hrecords => ?_
    rw [Records.perform, Records.addTransactions] at hrecords
    split at hrecords
    · obtain ⟨rfl, -⟩ := Prod.mk.inj (Except.ok.inj hrecords)
      exact h.reflects.learn hnew rfl
    · cases hrecords
  · exact h.advances_self

theorem Stands.keepAccount (h : c.Stands r) (account : Account) :
    Advances r (c.after (.keepAccount account)) := by
  refine h.perform fun s m hrecords => ?_
  obtain ⟨rfl, -⟩ := Prod.mk.inj (Except.ok.inj hrecords)
  exact h.reflects.of_transactions_eq rfl

theorem Stands.keepContract (h : c.Stands r) (contract : Contract) :
    Advances r (c.after (.keepContract contract)) := by
  refine h.perform fun s m hrecords => ?_
  obtain ⟨rfl, -⟩ := Prod.mk.inj (Except.ok.inj hrecords)
  exact h.reflects.of_transactions_eq rfl

/-! ### Examining -/

/-- What examining finds out is a whole classification. -/
theorem isClassified_of_finds {archive : Archive} {trx copy : Transaction}
    (h : Classification.Finds archive trx copy) : copy.IsClassified := by
  obtain ⟨callee, contract, -, -, -, rfl⟩ := h
  exact ⟨rfl, rfl⟩

/-- An archive that writes a classification changes its store as the store does. -/
theorem exists_store_of_writeClassification {archive next : Archive} {copy : Transaction}
    (h : archive.writeClassification copy = .ok next) :
    ∃ store, archive.store.perform (.writeClassification copy) = .ok (store, none) ∧
      next = { archive with store := store } := by
  unfold Archive.writeClassification Archive.guarded at h
  split at h
  · cases h
  · rw [Store.perform]
    cases hstore : archive.store.writeClassification copy with
    | error e =>
      rw [hstore] at h
      cases h
    | ok store =>
      rw [hstore] at h
      exact ⟨store, rfl, (Except.ok.inj h).symm⟩

/-- Writing a whole classification. -/
theorem Stands.write (h : c.Stands r) {copy : Transaction} (hcopy : copy.IsClassified)
    {next : Archive} (hnext : c.archive.writeClassification copy = .ok next) :
    Advances r { c with archive := next } := by
  obtain ⟨store, hstore, rfl⟩ := exists_store_of_writeClassification hnext
  refine h.advances hstore fun s m hrecords => ?_
  rw [Records.perform, Records.writeClassification] at hrecords
  cases hold : r.transactions.lookup copy.hash with
  | none =>
    rw [hold] at hrecords
    cases hrecords
  | some old =>
    rw [hold] at hrecords
    obtain ⟨rfl, -⟩ := Prod.mk.inj (Except.ok.inj hrecords)
    exact h.reflects.reclassify hcopy hold rfl

/-- **Examining**: nothing is written but a whole classification. -/
theorem Stands.examine (h : c.Stands r) (trx : Transaction) :
    Advances r (c.after (.examine trx)) := by
  unfold after
  dsimp only
  rcases Classification.cannotCall_or_callsUnknown_or_finds c.archive trx with
    hno | hunknown | ⟨copy, hfound⟩
  · rw [Classification.examine_of_cannotCall c.archive hno]
    exact h.advances_self
  · rw [Classification.examine_of_callsUnknown hunknown]
    exact h.advances_self
  · -- what stands in the way is asked for by the hash of the call, which the copy has too
    have hhash : copy.hash = trx.hash := by
      obtain ⟨callee, contract, -, -, -, rfl⟩ := hfound
      rfl
    have hwrite := Classification.writeClassification_eq c.archive copy
    rw [hhash] at hwrite
    rw [Classification.examine_of_finds hfound]
    cases hfailure : Classification.writeFailure? c.archive trx.hash with
    | some cause => exact h.advances_self
    | none =>
      rw [hfailure] at hwrite
      exact h.write (isClassified_of_finds hfound) hwrite

/-- Examining some calls in turn. -/
theorem Stands.examineAll (h : c.Stands r) (calls : List Transaction) :
    Advances r { c with archive := (Classification.examineAll c.archive calls).1 } := by
  induction calls generalizing c r with
  | nil => exact h.advances_self
  | cons trx rest ih =>
    obtain ⟨s, hnext, hretains⟩ := h.examine trx
    obtain ⟨t, hlast, hretains'⟩ := ih hnext
    exact ⟨t, hlast, hretains.trans hretains'⟩

/-- **Working**: whatever the schedule, and however far it goes. -/
theorem Stands.work (h : c.Stands r) (capacity : Nat) (calls : List Transaction)
    (moves : List Classification.Channel.Move) :
    Advances r (c.after (.work capacity calls moves)) := by
  unfold after
  dsimp only
  split
  · rename_i last hrun
    -- after any moves the worker is what the calls that it took make of it, one after the other
    have haccounts := (Classification.Channel.accounts_start capacity c.archive calls).run hrun
    have hworker := haccounts.worker_eq
    rw [Classification.Worker.takeAll_eq] at hworker
    rw [hworker]
    exact h.examineAll _
  · exact h.advances_self

/-! ### Runs -/

/-- **Step**: every activity keeps the invariant and what is classified. -/
theorem Stands.after (h : c.Stands r) (activity : Activity) : Advances r (c.after activity) := by
  cases activity with
  | insert batch => exact h.insert batch
  | keepAccount account => exact h.keepAccount account
  | keepContract contract => exact h.keepContract contract
  | fail calls => exact ⟨r, ⟨h.holds, h.reflects⟩, .refl r⟩
  | examine trx => exact h.examine trx
  | work capacity calls moves => exact h.work capacity calls moves

/-- **Run**: so do any activities. -/
theorem Stands.afterAll (h : c.Stands r) (activities : List Activity) :
    Advances r (c.afterAll activities) := by
  induction activities generalizing c r with
  | nil => exact h.advances_self
  | cons activity rest ih =>
    obtain ⟨s, hnext, hretains⟩ := h.after activity
    obtain ⟨t, hlast, hretains'⟩ := ih hnext
    exact ⟨t, hlast, hretains.trans hretains'⟩

/-- The rows of transactions are those of the records. -/
theorem Stands.rows (h : c.Stands r) :
    ∃ trxs : List Transaction,
      c.archive.store.transactions = some (trxs.map Store.TransactionRow.ofTransaction) ∧
      (trxs.map Transaction.hash).Nodup ∧
      (∀ trx ∈ trxs, trx.IsUnclassified ∨ trx.IsClassified) ∧
      (∀ hash, (trxs.find? fun trx => trx.hash == hash).map Transaction.recorded
        = c.inserted.find? fun trx => trx.hash == hash) ∧
      ∀ hash, r.knowsCall hash = true ↔ ∃ trx ∈ trxs, trx.hash = hash ∧
        trx.targetCall.isSome = true := by
  obtain ⟨trxs, hrows, htable⟩ := h.holds.transactions
  refine ⟨trxs, hrows, htable.nodup, fun trx htrx => ?_, fun hash => ?_, fun hash => ?_⟩
  · exact h.reflects.whole trx.hash trx ((htable.lookup_iff _ _).mpr ⟨htrx, rfl⟩)
  · rw [htable.find?_eq, h.reflects.first]
  · rw [Records.knowsCall, Option.any_eq_true]
    simp only [htable.lookup_iff, and_assoc]

end Chronicle

/-- **Persistence**: in every store that can be reached each row of transactions is without a
classification or has all of it, and what was recorded there is what was inserted first under its
hash; a hash that was inserted has a row.  A row that names a function names one for ever. -/
theorem classifications_are_whole_and_stay (config : Config) (source : InfoSource)
    (activities more : List Activity) :
    ∃ trxs later : List Transaction,
      ((Chronicle.start config source).afterAll activities).archive.store.transactions
        = some (trxs.map Store.TransactionRow.ofTransaction) ∧
      (trxs.map Transaction.hash).Nodup ∧
      (∀ trx ∈ trxs, trx.IsUnclassified ∨ trx.IsClassified) ∧
      (∀ hash, (trxs.find? fun trx => trx.hash == hash).map Transaction.recorded
        = ((Chronicle.start config source).afterAll activities).inserted.find?
          fun trx => trx.hash == hash) ∧
      ((Chronicle.start config source).afterAll (activities ++ more)).archive.store.transactions
        = some (later.map Store.TransactionRow.ofTransaction) ∧
      ∀ trx ∈ trxs, trx.targetCall.isSome = true →
        ∃ next ∈ later, next.hash = trx.hash ∧ next.targetCall.isSome = true := by
  obtain ⟨r, hstands, -⟩ := (Chronicle.stands_start config source).afterAll activities
  obtain ⟨s, hlater, hretains⟩ := hstands.afterAll more
  have hall : ((Chronicle.start config source).afterAll activities).afterAll more
      = (Chronicle.start config source).afterAll (activities ++ more) :=
    (List.foldl_append ..).symm
  rw [hall] at hlater
  obtain ⟨trxs, hrows, hnodup, hwhole, hfirst, hknows⟩ := hstands.rows
  obtain ⟨later, hlaterRows, -, -, -, hlaterKnows⟩ := hlater.rows
  refine ⟨trxs, later, hrows, hnodup, hwhole, hfirst, hlaterRows, fun trx htrx hcall => ?_⟩
  have hknown : r.knowsCall trx.hash = true := (hknows trx.hash).mpr ⟨trx, htrx, rfl, hcall⟩
  exact (hlaterKnows trx.hash).mp (hretains trx.hash hknown)

end OffChain
