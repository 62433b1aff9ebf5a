import OffChain.Abi.Interface
import OffChain.Event

/-!
# Naming the function of a call

A call is named by the first strategy that knows its selector, in the order in which the strategies
are tried: the description stored with the contract, or an interface kept from an earlier version.
If none knows it, the digits of the selector are its name; only data too short for a selector have
none.  A description that cannot be used knows no selector.
-/

namespace OffChain

/-- Where the name of a call comes from. -/
inductive LabelOrigin where
  /-- The description stored with the contract. -/
  | ownAbi
  /-- An interface kept from an earlier version of the contract. -/
  | earlierAbi
  /-- The digits of the selector. -/
  | selectorDigits
deriving DecidableEq, Repr

namespace LabelOrigin

/-- Its name. -/
def name : LabelOrigin → String
  | ownAbi => "ContractAbi"
  | earlierAbi => "LegacyAbi"
  | selectorDigits => "RawSelector"

end LabelOrigin

/-- One step of the chain. -/
inductive Labeler where
  /-- The text of a description, read when it is used. -/
  | ownAbi (abi : String)
  /-- An interface. -/
  | earlierAbi (interface : Abi.Interface)

/-- The name of a call. -/
structure CallLabel where
  /-- The name of the function, or the eight digits of the selector. -/
  text : String
  /-- Where the name comes from. -/
  origin : LabelOrigin
deriving DecidableEq, Repr

namespace CallLabel

/-- The reason why a description cannot be used. -/
def reason : Abi.Interface.ParseError → FieldValue
  | .blank => .shown "interface description is empty"
  | .malformed => .hidden

/-- The name that the text of a description gives to a call. -/
def byDescription (abi : String) (input : Bytes) : Logged (Option String) :=
  match Abi.Interface.parse abi with
  | .ok interface => pure ((interface.lookup? input).map Abi.Callable.name)
  | .error e => do
    Logged.report .labels .debug "failed to parse ABI" [("error", reason e)]
    pure none

/-- The eight digits of the selector that call data begin with. -/
def selectorDigits? (input : Bytes) : Option String :=
  (Selector.ofInput? input).map Selector.digits

/-- The origin of the names that a strategy gives. -/
def originOf : Labeler → LabelOrigin
  | .ownAbi _ => .ownAbi
  | .earlierAbi _ => .earlierAbi

/-- The name that a strategy gives to a call. -/
def byLabeler (input : Bytes) : Labeler → Logged (Option String)
  | .ownAbi abi => byDescription abi input
  | .earlierAbi interface => pure ((interface.lookup? input).map Abi.Callable.name)

/-- The name of a call. -/
def ofInput (input : Bytes) : List Labeler → Logged (Option CallLabel)
  | [] => pure ((selectorDigits? input).map fun digits => ⟨digits, .selectorDigits⟩)
  | strategy :: rest => do
    match ← byLabeler input strategy with
    | some name => pure (some ⟨name, originOf strategy⟩)
    | none => do
      Logged.report .labels .trace "selector not found"
        [("source", .shown (originOf strategy).name)]
      ofInput input rest

end CallLabel

end OffChain
