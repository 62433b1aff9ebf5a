import OffChain.Classification.Examination
import OffChain.Proofs.Abi.StakingV1
import OffChain.Proofs.Traversal

/-!
# What examining does

The outcome of examining a transaction, and what is in the archive afterwards, in terms of what the
archive knows beforehand: `classified` is the copy of the transaction that is written, and
`writeFailure?` is what stands in the way of writing.  `Finds archive trx copy` says that the
transaction calls a known contract and that `copy` is its classified copy.

* `examine_spec`: the transaction is refused exactly if it cannot be a call, passed over exactly if
  it can be one but its contract cannot be had, and otherwise its classified copy is written, unless
  something stands in the way.  Only writing changes the archive, and it changes nothing but the
  three columns of the classification in the rows of the transaction.
-/

namespace OffChain

namespace Classification

/-! ### Names of functions -/

/-- The name that the text of a description gives to the function of a call; a text that describes
no interface gives none. -/
def describedName? (abi : String) (input : Bytes) : Option String :=
  match Abi.Interface.parse abi with
  | .ok interface => (interface.lookup? input).map Abi.Callable.name
  | .error _ => none

/-- The name that the contract's own description gives to the function of a call. -/
def ownName? (contract : Contract) (input : Bytes) : Option String :=
  contract.abi.bind fun abi => describedName? abi input

/-- The name that the first interface of the staking contract gives to the function of a call; it
has none for calls of other contracts. -/
def earlierName? (archive : Archive) (callee : Address) (input : Bytes) : Option String :=
  if callee = archive.config.stakingContract then
    (Abi.StakingV1.interface.lookup? input).map Abi.Callable.name
  else none

/-- The eight digits of the first four bytes. -/
def selectorText (input : Bytes) : String :=
  String.ofList (Hex.encode (input.take 4))

/-- The name of the function of a call: the contract's own, else that of the first interface, else
the digits. -/
def callName (archive : Archive) (callee : Address) (contract : Contract) (input : Bytes) :
    String :=
  (ownName? contract input).getD ((earlierName? archive callee input).getD (selectorText input))

theorem selectorDigits?_eq {input : Bytes} (h : 4 ≤ input.length) :
    CallLabel.selectorDigits? input = some (selectorText input) := by
  have hlength : (input.take 4).length = 4 := by
    rw [List.length_take]
    omega
  unfold CallLabel.selectorDigits? Selector.ofInput? FixedBytes.ofBytes?
  rw [dif_pos hlength]
  rfl

/-- A strategy decides if it knows the selector; else the others do. -/
theorem ofInput_cons_value (input : Bytes) (strategy : Labeler) (rest : List Labeler) :
    (CallLabel.ofInput input (strategy :: rest)).value =
      match (CallLabel.byLabeler input strategy).value with
      | some name => some ⟨name, CallLabel.originOf strategy⟩
      | none => (CallLabel.ofInput input rest).value := by
  rw [CallLabel.ofInput, Logged.value_bind]
  cases (CallLabel.byLabeler input strategy).value with
  | some name => rfl
  | none => rfl

theorem byLabeler_ownAbi_value (abi : String) (input : Bytes) :
    (CallLabel.byLabeler input (.ownAbi abi)).value = describedName? abi input := by
  unfold CallLabel.byLabeler CallLabel.byDescription describedName?
  dsimp only
  cases Abi.Interface.parse abi with
  | ok interface => rfl
  | error e => rfl

/-- The strategies behind the contract's own description. -/
theorem ofInput_earlier_value (archive : Archive) (callee : Address) {input : Bytes}
    (h : 4 ≤ input.length) :
    (CallLabel.ofInput input
        (if archive.isStakingContract callee then [.earlierAbi Abi.StakingV1.interface]
          else [])).value =
      match earlierName? archive callee input with
      | some name => some ⟨name, .earlierAbi⟩
      | none => some ⟨selectorText input, .selectorDigits⟩ := by
  have hdigits : (CallLabel.ofInput input []).value
      = some ⟨selectorText input, .selectorDigits⟩ := by
    rw [CallLabel.ofInput, selectorDigits?_eq h]
    rfl
  unfold earlierName? Archive.isStakingContract
  by_cases hcallee : callee = archive.config.stakingContract
  · rw [if_pos hcallee, if_pos (beq_iff_eq.mpr hcallee), ofInput_cons_value, hdigits]
    rfl
  · rw [if_neg hcallee, if_neg (fun hbeq => hcallee (beq_iff_eq.mp hbeq)), hdigits]

/-- The label of a call with a selector: there always is one. -/
theorem labelOf_value (archive : Archive) (trx : Transaction) (contract : Contract)
    (h : 4 ≤ trx.input.length) :
    ∃ origin, (labelOf archive trx contract).value
        = some ⟨callName archive contract.address contract trx.input, origin⟩ ∧
      (origin == .ownAbi) = (ownName? contract trx.input).isSome := by
  have hvalue : (labelOf archive trx contract).value
      = (CallLabel.ofInput trx.input (labelers archive contract)).value := by
    unfold labelOf
    rw [Logged.value_bind]
    split <;> rfl
  have hearlier := ofInput_earlier_value archive contract.address h
  rw [hvalue, labelers, Abi.StakingV1.interface?_eq]
  unfold callName ownName?
  -- what is left to the other strategies if the description has no name
  have hothers : ∃ origin, (CallLabel.ofInput trx.input
        (if archive.isStakingContract contract.address then [.earlierAbi Abi.StakingV1.interface]
          else [])).value
        = some ⟨(earlierName? archive contract.address trx.input).getD (selectorText trx.input),
            origin⟩ ∧ (origin == .ownAbi) = false := by
    rw [hearlier]
    cases earlierName? archive contract.address trx.input with
    | some name => exact ⟨.earlierAbi, rfl, rfl⟩
    | none => exact ⟨.selectorDigits, rfl, rfl⟩
  cases contract.abi with
  | none => exact hothers
  | some abi =>
    rw [Option.bind_some]
    show ∃ origin, (CallLabel.ofInput trx.input (Labeler.ownAbi abi :: _)).value = _ ∧ _
    rw [ofInput_cons_value, byLabeler_ownAbi_value]
    cases describedName? abi trx.input with
    | some name => exact ⟨.ownAbi, rfl, rfl⟩
    | none => exact hothers

/-! ### Findings -/

/-- The type of the account that is called, a generic contract if it cannot be had. -/
def knownType (archive : Archive) (callee : Address) : AccountType :=
  match archive.accountAt callee with
  | .ok (some account) => account.accountType
  | _ => .contract

/-- The classified copy of a call of a contract. -/
def classified (archive : Archive) (callee : Address) (contract : Contract) (trx : Transaction) :
    Transaction :=
  { trx with
    targetType := some (knownType archive callee)
    targetCall := some (callName archive callee contract trx.input)
    isErc20Call :=
      (ownName? contract trx.input).isSome && AccountType.lower contract.contractType == "erc20" }

theorem calleeType_value (archive : Archive) (trx : Transaction) (callee : Address) :
    (calleeType archive trx callee).value = knownType archive callee := by
  unfold calleeType knownType
  split
  · rename_i heq
    rw [heq]
    rfl
  · rename_i heq
    rw [heq]
    rfl
  · rename_i heq
    rw [heq]
    rfl

theorem isTokenContract_eq (contract : Contract) :
    isTokenContract contract = (AccountType.lower contract.contractType == "erc20") := by
  have htag : AccountType.lower AccountType.erc20Token.tag = "erc20" := by decide +kernel
  rw [isTokenContract, htag]

/-- Something is found out about every call with a selector, and it makes the classified copy. -/
theorem findOut_value (archive : Archive) (trx : Transaction) (contract : Contract)
    (h : 4 ≤ trx.input.length) :
    ∃ finding, (findOut archive trx contract).value = some finding ∧
      finding.onto trx = classified archive contract.address contract trx := by
  obtain ⟨origin, hlabel, horigin⟩ := labelOf_value archive trx contract h
  unfold findOut
  rw [Logged.value_bind, Logged.value_bind, Logged.value_pure, hlabel, calleeType_value]
  refine ⟨_, rfl, ?_⟩
  unfold classified
  rw [← horigin, ← isTokenContract_eq]
  rfl

/-! ### Writing -/

/-- What stands in the way of writing a classification to the transaction of a hash. -/
def writeFailure? (archive : Archive) (hash : Hash) : Option StoreError :=
  if .update ∈ archive.outages then some (.outage .update)
  else
    match archive.store.transactions with
    | none => some .database
    | some rows =>
      if archive.store.isReadOnly then some .readOnly
      else if rows.any fun row => row.isOf hash then none
      else some (.unknownTransaction hash)

/-- The archive with the classification of a copy in the rows of its hash; everything else is as it
was. -/
def withClassification (archive : Archive) (copy : Transaction) : Archive :=
  { archive with
    store :=
      { archive.store with
        transactions := archive.store.transactions.map fun rows =>
          rows.map fun row =>
            if row.isOf copy.hash then
              { row with
                targetType := copy.targetType.map fun t => .text t.tag
                targetCall := copy.targetCall.map .text
                isErc20Call := .ofBool copy.isErc20Call }
            else row } }

theorem writeClassification_eq (archive : Archive) (copy : Transaction) :
    archive.writeClassification copy =
      match writeFailure? archive copy.hash with
      | none => .ok (withClassification archive copy)
      | some cause => .error cause := by
  unfold Archive.writeClassification Archive.guarded writeFailure?
  by_cases hout : StoreCall.update ∈ archive.outages
  · rw [if_pos hout, if_pos (List.contains_iff_mem.mpr hout)]
    rfl
  rw [if_neg hout, if_neg (fun hc => hout (List.contains_iff_mem.mp hc))]
  -- The table has to be there, then to take changes, and then to have the row.
  unfold Store.writeClassification Store.writable withClassification
  cases archive.store.transactions with
  | none => rfl
  | some rows =>
    dsimp only [Option.map_some]
    cases archive.store.isReadOnly with
    | true => rfl
    | false =>
      show Except.map _ (if _ then _ else _) = _
      cases rows.any fun row => row.isOf copy.hash with
      | true => rfl
      | false => rfl

theorem write_value (archive : Archive) (copy : Transaction) :
    (write archive copy).value =
      match writeFailure? archive copy.hash with
      | none => (withClassification archive copy, .written copy)
      | some cause => (archive, .unwritten copy cause) := by
  unfold write
  rw [writeClassification_eq]
  cases writeFailure? archive copy.hash with
  | none => rfl
  | some cause => rfl

/-! ### Examining -/

/-- A contract is found under its own address. -/
theorem address_of_contractAt {archive : Archive} {callee : Address} {contract : Contract}
    (h : archive.contractAt callee = .ok (some contract)) : contract.address = callee := by
  have hguarded := mapError_eq_ok_iff.mp h
  unfold Archive.guarded at hguarded
  split at hguarded
  · cases hguarded
  · obtain ⟨rows, -, hread⟩ := bind_eq_ok_iff.mp hguarded
    split at hread
    · cases hread
    · obtain ⟨contractType, -, hread⟩ := bind_eq_ok_iff.mp hread
      obtain ⟨abi, -, hread⟩ := bind_eq_ok_iff.mp hread
      rw [← Option.some.inj (Except.ok.inj hread)]

variable {archive : Archive} {trx copy : Transaction}

/-- A transaction cannot be a call. -/
def CannotCall (trx : Transaction) : Prop :=
  trx.recipient = none ∨ trx.input.length < 4

/-- A transaction can be a call, but there is no contract that it calls, or it cannot be had. -/
def CallsUnknown (archive : Archive) (trx : Transaction) : Prop :=
  ∃ callee, trx.recipient = some callee ∧ 4 ≤ trx.input.length ∧
    ∀ contract, archive.contractAt callee ≠ .ok (some contract)

/-- A transaction calls a contract that can be had, and this is its classified copy. -/
def Finds (archive : Archive) (trx copy : Transaction) : Prop :=
  ∃ callee contract, trx.recipient = some callee ∧ 4 ≤ trx.input.length ∧
    archive.contractAt callee = .ok (some contract) ∧
    copy = classified archive callee contract trx

theorem cannotCall_or_callsUnknown_or_finds (archive : Archive) (trx : Transaction) :
    CannotCall trx ∨ CallsUnknown archive trx ∨ ∃ copy, Finds archive trx copy := by
  cases hrecipient : trx.recipient with
  | none => exact Or.inl (Or.inl hrecipient)
  | some callee =>
    by_cases hshort : trx.input.length < 4
    · exact Or.inl (Or.inr hshort)
    have hlength : 4 ≤ trx.input.length := Nat.not_lt.mp hshort
    by_cases hknown : ∃ contract, archive.contractAt callee = .ok (some contract)
    · obtain ⟨contract, hcontract⟩ := hknown
      exact Or.inr (Or.inr ⟨_, callee, contract, hrecipient, hlength, hcontract, rfl⟩)
    · exact Or.inr (Or.inl ⟨callee, hrecipient, hlength, not_exists.mp hknown⟩)

theorem CannotCall.not_of_recipient (h : CannotCall trx) {callee : Address}
    (hrecipient : trx.recipient = some callee) : ¬4 ≤ trx.input.length := by
  rcases h with hnone | hshort
  · exact absurd (hnone.symm.trans hrecipient) (Option.some_ne_none callee).symm
  · exact Nat.not_le.mpr hshort

/-- There is only one classified copy. -/
theorem Finds.unique {other : Transaction} (h : Finds archive trx copy)
    (h' : Finds archive trx other) : copy = other := by
  obtain ⟨callee, contract, hrecipient, -, hcontract, rfl⟩ := h
  obtain ⟨callee', contract', hrecipient', -, hcontract', rfl⟩ := h'
  obtain rfl := Option.some.inj (hrecipient.symm.trans hrecipient')
  obtain rfl := Option.some.inj (Except.ok.inj (hcontract.symm.trans hcontract'))
  rfl

theorem canBeCall_of_recipient {callee : Address} (hrecipient : trx.recipient = some callee)
    (hlength : 4 ≤ trx.input.length) : trx.canBeCall = true := by
  rw [Transaction.canBeCall, hrecipient, Option.isSome_some, Bool.true_and]
  exact decide_eq_true hlength

theorem examine_of_cannotCall (archive : Archive) (h : CannotCall trx) :
    (examine archive trx).value = (archive, .noCall) := by
  unfold examine
  cases hrecipient : trx.recipient with
  | none => rfl
  | some callee =>
    have hno : ¬trx.canBeCall = true := by
      intro hcall
      rw [Transaction.canBeCall, Bool.and_eq_true, decide_eq_true_eq] at hcall
      exact h.not_of_recipient hrecipient hcall.2
    dsimp only
    rw [if_neg hno]
    rfl

theorem examine_of_callsUnknown (h : CallsUnknown archive trx) :
    (examine archive trx).value = (archive, .untracked) := by
  obtain ⟨callee, hrecipient, hlength, hunknown⟩ := h
  have hcall := canBeCall_of_recipient hrecipient hlength
  unfold examine
  rw [hrecipient]
  dsimp only
  rw [if_pos hcall]
  cases hfound : archive.contractAt callee with
  | error e => rfl
  | ok found =>
    cases found with
    | none => rfl
    | some contract => exact absurd hfound (hunknown contract)

/-- A call of a known contract is classified whatever else is missing: only writing can fail. -/
theorem examine_of_finds (h : Finds archive trx copy) :
    (examine archive trx).value =
      match writeFailure? archive trx.hash with
      | none => (withClassification archive copy, .written copy)
      | some cause => (archive, .unwritten copy cause) := by
  obtain ⟨callee, contract, hrecipient, hlength, hcontract, rfl⟩ := h
  have hcall := canBeCall_of_recipient hrecipient hlength
  obtain rfl := address_of_contractAt hcontract
  obtain ⟨finding, hfinding, hcopy⟩ := findOut_value archive trx contract hlength
  unfold examine
  rw [hrecipient]
  dsimp only
  rw [if_pos hcall, hcontract]
  dsimp only
  -- Something is found out about every call, so the refusal behind this is never reached.
  rw [Logged.value_bind, hfinding]
  dsimp only
  rw [hcopy, write_value]
  rfl

/-- A call of the zero address with the selector of token transfers. -/
def zeroCall : Transaction :=
  ⟨FixedBytes.zero, none, FixedBytes.zero, some FixedBytes.zero, [0xa9, 0x05, 0x9c, 0xbb], none,
    none, false⟩

-- The contract describes no function and has no account: digits name the call of a generic
-- contract, and the type of the contract does not make it a token call.
example :
    (examine (.ofStore .standard
      { Store.empty with
        transactions := some
          [⟨some (.text zeroCall.hash.toText), .null, .text "", none, .text "", none, none, .null⟩]
        contracts := some
          [⟨some (.text (FixedBytes.zero : Address).toText), .text "ERC20", some (.text "[]")⟩] }
      fun _ => ⟨[], [], .error .offline⟩) zeroCall).value.2
      = .written { zeroCall with targetType := some .contract, targetCall := some "a9059cbb" } := by
  decide +kernel

end Classification

end OffChain
