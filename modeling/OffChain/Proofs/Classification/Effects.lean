import OffChain.Proofs.Classification.Examination
import OffChain.Proofs.Classification.Worker

/-!
# What examining leaves of the rows

The outcomes of examining some calls tell all that happened to the archive: nothing but rows of
transactions changed, and each of them as the written copies of its hash say, one after the other
(`examineAll_fst`).  So a row whose hash is not among those of the written copies is as it was
(`rowAfterAll_of_forall`).

Examining reads nothing of those rows but their hashes, and these stay.  So the calls do not get in
each other's way: each has the outcome that it has on its own (`examineAll_snd`).
-/

namespace OffChain

namespace Classification

open Store

/-- An archive with other rows of transactions. -/
def changeRows (archive : Archive) (change : TransactionRow → TransactionRow) : Archive :=
  { archive with
    store :=
      { archive.store with transactions := archive.store.transactions.map (List.map change) } }

/-- A row of transactions after an outcome. -/
def rowAfter (row : TransactionRow) : Outcome → TransactionRow
  | .written copy => if row.isOf copy.hash then row.classifiedAs copy else row
  | .unwritten _ _ => row
  | .untracked => row
  | .noCall => row

/-- A row of transactions after some outcomes, first one first. -/
def rowAfterAll (row : TransactionRow) (outcomes : List Outcome) : TransactionRow :=
  outcomes.foldl rowAfter row

theorem changeRows_self (archive : Archive) : changeRows archive (fun row => row) = archive := by
  have hrows : archive.store.transactions.map (List.map fun row => row)
      = archive.store.transactions := by
    rw [List.map_id_fun', Option.map_id_fun, id]
  rw [changeRows, hrows]

theorem changeRows_changeRows (archive : Archive) (change other : TransactionRow → TransactionRow) :
    changeRows (changeRows archive change) other
      = changeRows archive fun row => other (change row) := by
  have hmap : List.map other ∘ List.map change = List.map fun row => other (change row) :=
    funext fun _ => List.map_map
  unfold changeRows
  dsimp only
  rw [Option.map_map, hmap]

/-- **Step**: an outcome tells what happened to the rows. -/
theorem examine_fst (archive : Archive) (trx : Transaction) :
    (examine archive trx).value.1
      = changeRows archive fun row => rowAfter row (examine archive trx).value.2 := by
  rcases cannotCall_or_callsUnknown_or_finds archive trx with hno | hunknown | ⟨copy, hfound⟩
  · rw [examine_of_cannotCall archive hno]
    exact (changeRows_self archive).symm
  · rw [examine_of_callsUnknown hunknown]
    exact (changeRows_self archive).symm
  · rw [examine_of_finds hfound]
    cases writeFailure? archive trx.hash with
    | none => rfl
    | some cause => exact (changeRows_self archive).symm

/-- **Run**: so do all outcomes together. -/
theorem examineAll_fst (archive : Archive) (calls : List Transaction) :
    (examineAll archive calls).1
      = changeRows archive fun row => rowAfterAll row (examineAll archive calls).2 := by
  induction calls generalizing archive with
  | nil => exact (changeRows_self archive).symm
  | cons trx rest ih =>
    show (examineAll (examine archive trx).value.1 rest).1 = _
    rw [ih, examine_fst, changeRows_changeRows, ← examine_fst]
    rfl

/-- A row of which no copy was written is as it was. -/
theorem rowAfterAll_of_forall {row : TransactionRow} {outcomes : List Outcome}
    (h : ∀ copy, .written copy ∈ outcomes → row.isOf copy.hash = false) :
    rowAfterAll row outcomes = row := by
  induction outcomes with
  | nil => rfl
  | cons outcome rest ih =>
    have hrow : rowAfter row outcome = row := by
      cases outcome with
      | written copy =>
        rw [rowAfter, h copy List.mem_cons_self]
        rfl
      | unwritten | untracked | noCall => rfl
    rw [rowAfterAll, List.foldl_cons, hrow]
    exact ih fun copy hcopy => h copy (List.mem_cons_of_mem _ hcopy)

/-! ### Outcomes -/

theorem hash_rowAfter (row : TransactionRow) (outcome : Outcome) :
    (rowAfter row outcome).hash = row.hash := by
  cases outcome with
  | written copy =>
    rw [rowAfter]
    split <;> rfl
  | unwritten | untracked | noCall => rfl

section KeepingHashes

variable {archive : Archive} {change : TransactionRow → TransactionRow}

/-- What stands in the way of writing hangs on the hashes of rows. -/
theorem writeFailure?_changeRows (h : ∀ row, (change row).hash = row.hash) (hash : Hash) :
    writeFailure? (changeRows archive change) hash = writeFailure? archive hash := by
  have hisOf : (fun row : TransactionRow => (change row).isOf hash) = fun row => row.isOf hash :=
    funext fun row => congrArg (fun cell => cell == some (TextCell.text hash.toText)) (h row)
  unfold writeFailure? changeRows
  dsimp only
  cases archive.store.transactions with
  | none => rfl
  | some rows =>
    simp only [Option.map_some, List.any_map, Function.comp_def, hisOf]

/-- What is found out hangs on contracts and accounts, not on transactions. -/
theorem examine_changeRows_snd (h : ∀ row, (change row).hash = row.hash) (trx : Transaction) :
    (examine (changeRows archive change) trx).value.2 = (examine archive trx).value.2 := by
  rcases cannotCall_or_callsUnknown_or_finds archive trx with hno | hunknown | ⟨copy, hfound⟩
  · rw [examine_of_cannotCall _ hno, examine_of_cannotCall _ hno]
  · have hunknown' : CallsUnknown (changeRows archive change) trx := hunknown
    rw [examine_of_callsUnknown hunknown, examine_of_callsUnknown hunknown']
  · have hfound' : Finds (changeRows archive change) trx copy := hfound
    rw [examine_of_finds hfound, examine_of_finds hfound', writeFailure?_changeRows h]
    cases writeFailure? archive trx.hash <;> rfl

end KeepingHashes

/-- **Independence**: a call has the outcome that it has on its own, whatever is examined before
it. -/
theorem examineAll_snd (archive : Archive) (calls : List Transaction) :
    (examineAll archive calls).2 = calls.map fun trx => (examine archive trx).value.2 := by
  induction calls generalizing archive with
  | nil => rfl
  | cons trx rest ih =>
    have hhash : ∀ row, (rowAfter row (examine archive trx).value.2).hash = row.hash :=
      fun row => hash_rowAfter row _
    have hrest := ih (examine archive trx).value.1
    rw [examine_fst] at hrest
    simp only [examine_changeRows_snd hhash] at hrest
    rw [List.map_cons, ← hrest, ← examine_fst]
    rfl

end Classification

end OffChain
