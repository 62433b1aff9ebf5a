import OffChain.Archive
import OffChain.CallLabel

/-!
# Examining calls

A call of a contract that the store knows is classified: by the type of the account that is called,
by the name of the function and by whether that is a function of a fungible token.  The three are
found out first and then written into the store at once, so that a stored classification is whole.

Nothing that goes wrong is fatal.  What cannot be a call and what does not call a known contract is
passed over; an account that is not known counts as a generic contract.
-/

namespace OffChain.Classification

/-! ### Classifications -/

/-- What is found out about a call. -/
structure Finding where
  /-- The type of the account that is called. -/
  targetType : AccountType
  /-- The name of the function and where it comes from. -/
  call : CallLabel
  /-- Whether it is a function of a fungible token. -/
  isErc20Call : Bool
deriving DecidableEq, Repr

namespace Finding

/-- The transaction with what was found out about it. -/
def onto (c : Finding) (trx : Transaction) : Transaction :=
  { trx with
    targetType := some c.targetType
    targetCall := some c.call.text
    isErc20Call := c.isErc20Call }

end Finding

/-- The outcome of examining a transaction. -/
inductive Outcome where
  /-- It cannot be a call. -/
  | noCall
  /-- It does not call a known contract. -/
  | untracked
  /-- It was classified, as given, and written. -/
  | written (trx : Transaction)
  /-- It was classified, as given, but could not be written. -/
  | unwritten (trx : Transaction) (cause : StoreError)
deriving DecidableEq

namespace Outcome

/-- Whether a classification was to be written, successfully or not. -/
def isAttempt : Outcome → Bool
  | noCall => false
  | untracked => false
  | written _ => true
  | unwritten _ _ => true

end Outcome

/-! ### Reports -/

/-- The field of an error. -/
def errorField (e : StoreError) : String × FieldValue :=
  ("error", (e.headline?.map FieldValue.shown).getD .hidden)

/-- The field of a transaction: its hash. -/
def hashField (trx : Transaction) : String × FieldValue :=
  ("hash", .shown trx.hash.toText)

/-- Reports that the account of a called contract is missing. -/
def reportAccount (trx : Transaction) (callee : Address) (message : String)
    (fields : List (String × FieldValue)) : Logged Unit :=
  Logged.report .worker .error message
    ([("severity", .quoted "critical"), ("contract", .shown callee.checksum), hashField trx]
      ++ fields)

/-! ### Classifying -/

/-- The type of the account that is called. -/
def calleeType (archive : Archive) (trx : Transaction) (callee : Address) : Logged AccountType :=
  match archive.accountAt callee with
  | .ok (some account) => pure account.accountType
  | .ok none => do
    reportAccount trx callee "contract account not found" []
    pure .contract
  | .error e => do
    reportAccount trx callee "contract account not available" [errorField e]
    pure .contract

/-- The strategies by which the functions of a contract are named: its own description, and for the
staking contract also its first interface. -/
def labelers (archive : Archive) (contract : Contract) : List Labeler :=
  contract.abi.toList.map Labeler.ownAbi
    ++ (if archive.isStakingContract contract.address then
        Abi.StakingV1.interface?.toList.map Labeler.earlierAbi
      else [])

/-- The name of the function that is called. -/
def labelOf (archive : Archive) (trx : Transaction) (contract : Contract) :
    Logged (Option CallLabel) := do
  let call ← CallLabel.ofInput trx.input (labelers archive contract)
  if call.any fun c => c.origin == .selectorDigits then
    Logged.report .worker .debug "transaction call undefined, generic signature used"
      [hashField trx]
  pure call

/-- Whether a contract is of the type of fungible tokens. -/
def isTokenContract (contract : Contract) : Bool :=
  AccountType.lower contract.contractType == AccountType.lower AccountType.erc20Token.tag

/-- What is found out about the call of a contract. -/
def findOut (archive : Archive) (trx : Transaction) (contract : Contract) :
    Logged (Option Finding) := do
  let type ← calleeType archive trx contract.address
  let call ← labelOf archive trx contract
  pure (call.map fun call =>
    { targetType := type
      call := call
      isErc20Call := call.origin == .ownAbi && isTokenContract contract })

/-- Writes the classification of a transaction. -/
def write (archive : Archive) (trx : Transaction) : Logged (Archive × Outcome) :=
  match archive.writeClassification trx with
  | .ok archive => pure (archive, .written trx)
  | .error e => do
    Logged.report .worker .error "transaction not updated" [hashField trx, errorField e]
    pure (archive, .unwritten trx e)

/-- Reports what cannot be a call. -/
def refuse (archive : Archive) (trx : Transaction) : Logged (Archive × Outcome) := do
  Logged.report .worker .error "analyzer received a non-call transaction" [hashField trx]
  pure (archive, .noCall)

/-- Examines a transaction and writes what is found out. -/
def examine (archive : Archive) (trx : Transaction) : Logged (Archive × Outcome) :=
  match trx.recipient with
  | none => refuse archive trx
  | some callee =>
    if trx.canBeCall then
      match archive.contractAt callee with
      | .ok (some contract) => do
        match ← findOut archive trx contract with
        | some c => write archive (c.onto trx)
        | none => pure (archive, .noCall)
      | .ok none => do
        Logged.report .worker .debug
          "transaction recipient not known, probably not a contract call" [hashField trx]
        pure (archive, .untracked)
      | .error e => do
        Logged.report .worker .error "can not analyze call" [hashField trx, errorField e]
        pure (archive, .untracked)
    else refuse archive trx

end OffChain.Classification
