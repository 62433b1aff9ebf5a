import OffChain.Proofs.Numerals
import OffChain.Proofs.Traversal
import OffChain.Store.Transactions
import OffChain.Store.Withdrawals

/-!
# Rows of records

A record that can be stored has exactly one row, and its row reads back as the record:

* `TransactionRow.of?_eq` and `RequestRow.of?_eq`: a row is made of every record whose numbers of
  64 bits fit their columns, and of no other;
* `TransactionRow.decodeAll_ofTransaction` and `RequestRow.decodeAll_ofRequest`: reading such rows
  never fails and gives the records.

The keys of rows are texts, those of records are values, and the texts are equal exactly if the
values are (`TransactionRow.isOf_ofTransaction`, `RequestRow.sameKey_ofRequest`,
`RequestRow.matchesFilter_ofRequest`).  What follows in the other modules is therefore about lists
of records, not about rows.
-/

namespace OffChain

namespace Store

/-! ### Access to tables -/

section Access

variable {s : Store} {α ρ : Type}

theorem writable_some (h : s.isReadOnly = false) (content : α) :
    s.writable (some content) = .ok content := by
  unfold writable
  rw [h]
  rfl

theorem writable_eq_ok {table : Option α} {content : α} (h : s.writable table = .ok content) :
    table = some content := by
  obtain ⟨a, ha, hwrite⟩ := bind_eq_ok_iff.mp h
  cases table with
  | none => exact nomatch ha
  | some b =>
    split at hwrite
    · exact nomatch hwrite
    · rw [Except.ok.inj ha, Except.ok.inj hwrite]

/-- A store that takes changes takes any batch, the empty one too. -/
theorem insertable_some (h : s.isReadOnly = false) (content : α) (batch : List (Option ρ)) :
    s.insertable (some content) batch = .ok content := by
  unfold insertable
  split
  · exact writable_some h content
  · rfl

theorem insertable_eq_ok {table : Option α} {batch : List (Option ρ)} {content : α}
    (h : s.insertable table batch = .ok content) : table = some content := by
  unfold insertable at h
  split at h
  · exact writable_eq_ok h
  · cases table with
    | none => exact nomatch h
    | some b => rw [Except.ok.inj h]

end Access

/-! ### Columns -/

/-- Whether an integer column can hold a number of 64 bits. -/
def fitsColumn (n : UInt64) : Bool :=
  decide (n.toNat ≤ maxInteger)

namespace Cell

/-- A number of 64 bits as an integer column holds it. -/
def ofUInt64 (n : UInt64) : Cell :=
  integer n.toNat

/-- A number of 64 bits that may be absent, as an integer column holds it. -/
def ofOption (o : Option UInt64) : Cell :=
  (o.map ofUInt64).getD null

theorem ofUInt64?_eq (n : UInt64) :
    ofUInt64? n = if fitsColumn n then some (ofUInt64 n) else none := by
  simp only [ofUInt64?, fitsColumn, decide_eq_true_eq, ofUInt64]

theorem ofOption?_eq (o : Option UInt64) :
    ofOption? o = if o.all fitsColumn then some (ofOption o) else none := by
  cases o with
  | none => rfl
  | some n =>
    rw [ofOption?, ofUInt64?_eq, Option.all_some]
    rfl

@[simp]
theorem toUInt64_ofUInt64 (n : UInt64) : (ofUInt64 n).toUInt64 = .ok n := by
  simp [ofUInt64, toUInt64]

@[simp]
theorem toOption_ofOption (o : Option UInt64) : (ofOption o).toOption = .ok o := by
  cases o with
  | none => rfl
  | some n =>
    show (ofUInt64 n).toUInt64.map some = .ok (some n)
    rw [toUInt64_ofUInt64]
    rfl

@[simp]
theorem toBool_ofBool (b : Bool) : (ofBool b).toBool = .ok b := by
  cases b <;> rfl

end Cell

theorem someText_eq_ok_iff {c : TextCell} {s : String} : someText c = .ok s ↔ c = .text s := by
  cases c with
  | text t => simp [someText, TextCell.text?, present]
  | blob bs => simp [someText, TextCell.text?, present]

/-- Texts that may be absent are taken out of their cells as they were put in. -/
theorem mapM_someText (o : Option String) :
    (o.map TextCell.text).mapM someText = (.ok o : Except StoreError _) := by
  cases o with
  | none => rfl
  | some s => rfl

theorem mapM_someText_map {α : Type} (f : α → String) (o : Option α) :
    (o.map fun a => TextCell.text (f a)).mapM someText = (.ok (o.map f) : Except StoreError _) := by
  rw [← mapM_someText, Option.map_map]
  rfl

@[simp]
theorem decodeAddress_toText (a : Address) : decodeAddress a.toText = .ok a := by
  simp [decodeAddress]

@[simp]
theorem decodeNumber_toText (n : UInt256) : decodeNumber (UInt256.toText n) = .ok n := by
  simp [decodeNumber]

end Store

/-! ### Transactions -/

/-- Whether the table of transactions can hold a transaction. -/
def Transaction.isStorable (trx : Transaction) : Bool :=
  trx.blockNumber.all Store.fitsColumn

namespace Store.TransactionRow

/-- The row of a transaction that can be stored. -/
def ofTransaction (trx : Transaction) : TransactionRow :=
  { hash := some (.text trx.hash.toText)
    blockNumber := .ofOption trx.blockNumber
    sender := .text trx.sender.toText
    recipient := trx.recipient.map fun a => .text a.toText
    input := .text (Hex.toText trx.input)
    targetType := trx.targetType.map fun t => .text t.tag
    targetCall := trx.targetCall.map .text
    isErc20Call := .ofBool trx.isErc20Call }

theorem of?_eq (trx : Transaction) :
    of? trx = if trx.isStorable then some (ofTransaction trx) else none := by
  rw [of?, Cell.ofOption?_eq, Transaction.isStorable]
  split <;> rfl

/-- The texts and numbers of a transaction. -/
def typedOf (trx : Transaction) : Typed :=
  { hash := trx.hash.toText
    blockNumber := trx.blockNumber
    sender := trx.sender.toText
    recipient := trx.recipient.map FixedBytes.toText
    input := Hex.toText trx.input
    targetType := trx.targetType.map AccountType.tag
    targetCall := trx.targetCall
    isErc20Call := trx.isErc20Call }

theorem columns_ofTransaction (trx : Transaction) :
    (ofTransaction trx).columns = .ok (typedOf trx) := by
  simp only [columns, ofTransaction, Cell.toOption_ofOption, Cell.toBool_ofBool, mapM_someText,
    mapM_someText_map]
  rfl

/-- **Round trip**: the row of a transaction reads back as the transaction, in all its fields. -/
theorem decode_typedOf (trx : Transaction) : (typedOf trx).decode = .ok trx := by
  have hrecipient : (trx.recipient.map FixedBytes.toText).mapM decodeAddress
      = (.ok trx.recipient : Except StoreError _) := by
    cases trx.recipient with
    | none => rfl
    | some a =>
      rw [Option.map_some, Option.mapM_some, decodeAddress_toText]
      rfl
  have htype : (trx.targetType.map AccountType.tag).map AccountType.ofTag = trx.targetType := by
    cases trx.targetType with
    | none => rfl
    | some t => rw [Option.map_some, Option.map_some, AccountType.ofTag_tag]
  simp only [Typed.decode, typedOf, FixedBytes.ofText?_toText, Hex.ofText?_toText,
    decodeAddress_toText, hrecipient, htype]
  rfl

/-- **Round trip**: rows of transactions read back as the transactions. -/
theorem decodeAll_ofTransaction (trxs : List Transaction) :
    decodeAll (trxs.map ofTransaction) = .ok trxs := by
  rw [decodeAll, mapM_map_eq_ok columns_ofTransaction]
  exact (mapM_map_eq_ok decode_typedOf trxs).trans (congrArg Except.ok (List.map_id _))

theorem isOf_ofTransaction (trx : Transaction) (hash : Hash) :
    (ofTransaction trx).isOf hash = (trx.hash == hash) := by
  rw [Bool.eq_iff_iff]
  simp [isOf, ofTransaction, FixedBytes.toText_inj]

theorem countP_ofTransaction (trxs : List Transaction) :
    (trxs.map ofTransaction).countP (fun row => row.targetCall.isSome)
      = trxs.countP fun trx => trx.targetCall.isSome := by
  rw [List.countP_map]
  exact List.countP_congr fun trx _ => by simp [ofTransaction]

end Store.TransactionRow

/-! ### Accounts and contracts -/

namespace Store

/-- The row of an account. -/
def AccountRow.ofAccount (account : Account) : AccountRow :=
  ⟨some (.text account.address.toText), .text account.accountType.tag⟩

theorem AccountRow.address_ofAccount (account : Account) (address : Address) :
    ((ofAccount account).address == some (.text address.toText))
      = (account.address == address) := by
  rw [Bool.eq_iff_iff]
  simp [ofAccount, FixedBytes.toText_inj]

/-- The row of a contract. -/
def ContractRow.ofContract (contract : Contract) : ContractRow :=
  ⟨some (.text contract.address.toText), .text contract.contractType, contract.abi.map .text⟩

theorem ContractRow.address_ofContract (contract : Contract) (address : Address) :
    ((ofContract contract).address == some (.text address.toText))
      = (contract.address == address) := by
  rw [Bool.eq_iff_iff]
  simp [ofContract, FixedBytes.toText_inj]

end Store

/-! ### Withdrawal requests -/

namespace WithdrawRequest

/-- Whether the table of withdrawal requests can hold a request. -/
def isStorable (r : WithdrawRequest) : Bool :=
  Store.fitsColumn r.createdTime && r.withdrawTime.all Store.fitsColumn

/-- Whether two requests are of one delegator, validator and identifier. -/
def sameKey (r q : WithdrawRequest) : Bool :=
  r.address == q.address && r.stakerId == q.stakerId && r.requestId == q.requestId

end WithdrawRequest

/-- Whether a filter lets a request through. -/
def RequestFilter.admits (filter : RequestFilter) (r : WithdrawRequest) : Bool :=
  r.address == filter.address && filter.stakerId.all fun id => r.stakerId == id

namespace Store.RequestRow

/-- The row of a request that can be stored, under a number. -/
def ofRequest (seq : Nat) (r : WithdrawRequest) : RequestRow :=
  { seq := seq
    requestId := .text (UInt256.toText r.requestId)
    address := .text r.address.toText
    stakerId := .text (UInt256.toText r.stakerId)
    amount := .text (UInt256.toText r.amount)
    createdTime := .ofUInt64 r.createdTime
    withdrawTime := .ofOption r.withdrawTime }

theorem of?_eq (seq : Nat) (r : WithdrawRequest) :
    of? seq r = if r.isStorable then some (ofRequest seq r) else none := by
  rw [of?, Cell.ofUInt64?_eq, Cell.ofOption?_eq, WithdrawRequest.isStorable]
  cases fitsColumn r.createdTime with
  | false => rfl
  | true =>
    cases r.withdrawTime.all fitsColumn with
    | false => rfl
    | true => rfl

/-- The texts and numbers of a request. -/
def typedOf (r : WithdrawRequest) : Typed :=
  { requestId := UInt256.toText r.requestId
    address := r.address.toText
    stakerId := UInt256.toText r.stakerId
    amount := UInt256.toText r.amount
    createdTime := r.createdTime
    withdrawTime := r.withdrawTime }

theorem columns_ofRequest (seq : Nat) (r : WithdrawRequest) :
    (ofRequest seq r).columns = .ok (typedOf r) := by
  simp only [columns, ofRequest, Cell.toUInt64_ofUInt64, Cell.toOption_ofOption]
  rfl

theorem decode_typedOf (r : WithdrawRequest) : (typedOf r).decode = .ok r := by
  simp only [Typed.decode, typedOf, decodeNumber_toText, decodeAddress_toText]
  rfl

/-- **Round trip**: rows of requests read back as the requests. -/
theorem decodeAll_ofRequest (entries : List (Nat × WithdrawRequest)) :
    decodeAll (entries.map fun e => ofRequest e.1 e.2) = .ok (entries.map Prod.snd) := by
  have hcolumns : ∀ e : Nat × WithdrawRequest, (ofRequest e.1 e.2).columns = .ok (typedOf e.2) :=
    fun e => columns_ofRequest e.1 e.2
  have hdecode : ∀ e : Nat × WithdrawRequest, (typedOf e.2).decode = .ok e.2 :=
    fun e => decode_typedOf e.2
  rw [decodeAll, mapM_map_eq_ok hcolumns]
  exact mapM_map_eq_ok hdecode entries

theorem sameKey_ofRequest (i j : Nat) (r q : WithdrawRequest) :
    (ofRequest i r).sameKey (ofRequest j q) = r.sameKey q := by
  rw [Bool.eq_iff_iff]
  simp [sameKey, WithdrawRequest.sameKey, ofRequest, FixedBytes.toText_inj, UInt256.toText_inj]

theorem matchesFilter_ofRequest (filter : RequestFilter) (seq : Nat) (r : WithdrawRequest) :
    (ofRequest seq r).matchesFilter filter = filter.admits r := by
  rw [Bool.eq_iff_iff]
  cases h : filter.stakerId with
  | none => simp [matchesFilter, RequestFilter.admits, ofRequest, FixedBytes.toText_inj, h]
  | some id =>
    simp [matchesFilter, RequestFilter.admits, ofRequest, FixedBytes.toText_inj,
      UInt256.toText_inj, h]

end Store.RequestRow

end OffChain
