import OffChain.Abi.StakingV1

/-!
# What the first staking interface has

The description that the program comes with can be read, and it lists twenty-four functions of plain
types.

* `StakingV1.functions`, `StakingV1.interface`: the functions, and the interface that they make up.
* `StakingV1.interface?_eq`: the description is of that interface.
-/

namespace OffChain.Abi.StakingV1

/-- A function that takes and returns parameters of plain types. -/
def plain (name : String) (inputs outputs : List String) : Function :=
  ⟨name, inputs.map fun t => .mk t [], outputs.map fun t => .mk t []⟩

/-- The functions of the interface. -/
def functions : List Function :=
  [plain "createStake" ["bytes"] [],
    plain "createStakeWithAddresses" ["address", "address", "bytes"] [],
    plain "increaseStake" [] [],
    plain "updateStakerMetadata" ["bytes"] [],
    plain "updateStakerSfcAddress" ["address"] [],
    plain "createDelegation" ["uint256"] [],
    plain "claimDelegationRewards" ["uint256"] [],
    plain "claimValidatorRewards" ["uint256"] [],
    plain "prepareToWithdrawStake" [] [],
    plain "prepareToWithdrawStakePartial" ["uint256", "uint256"] [],
    plain "withdrawStake" [] [],
    plain "prepareToWithdrawDelegation" [] [],
    plain "prepareToWithdrawDelegationPartial" ["uint256", "uint256"] [],
    plain "withdrawDelegation" [] [],
    plain "partialWithdrawByRequest" ["uint256"] [],
    plain "lockUpStake" ["uint256"] [],
    plain "lockUpDelegation" ["uint256", "uint256"] [],
    plain "stakersNum" [] ["uint256"],
    plain "stakersLastID" [] ["uint256"],
    plain "delegationsNum" [] ["uint256"],
    plain "currentEpoch" [] ["uint256"],
    plain "getStakerID" ["address"] ["uint256"],
    plain "calcDelegationRewards" ["address", "uint256", "uint256"]
      ["uint256", "uint256", "uint256"],
    plain "calcValidatorRewards" ["uint256", "uint256", "uint256"]
      ["uint256", "uint256", "uint256"]]

/-- The interface. -/
def interface : Interface :=
  Interface.ofFunctions functions

theorem ofItems?_functions (fs : List Function) :
    Interface.ofItems? (fs.map Item.function) = some (Interface.ofFunctions fs) := by
  have hnone : ∀ p : Item → Bool, (∀ f, p (.function f) = false) →
      (fs.map Item.function).countP p = 0 := by
    intro p hp
    rw [List.countP_map]
    exact List.countP_eq_zero.mpr fun f _ => Bool.eq_false_iff.mp (hp f)
  have hfunctions : (fs.map Item.function).filterMap Item.function? = fs := by
    rw [List.filterMap_map]
    exact List.filterMap_some
  rw [Interface.ofItems?, Interface.isUnambiguous, hnone _ fun _ => rfl, hnone _ fun _ => rfl,
    hnone _ fun _ => rfl, hfunctions]
  rfl

/-- The items of a document that can be held. -/
def items? (j : Json) : Option (List Item) :=
  if j.isHoldable then j.toItems?.bind (List.mapM Item.ofJson?) else none

theorem ofJson?_eq_bind (j : Json) : Interface.ofJson? j = (items? j).bind Interface.ofItems? := by
  rw [Interface.ofJson?, items?]
  split
  · exact (Option.bind_assoc _ _ _).symm
  · rfl

theorem items?_description :
    (Json.parse? description).bind items? = some (functions.map Item.function) := by
  rw [description, Json.parse?_ofList]
  decide +kernel

theorem isAllBlank_description : Text.isAllBlank description = false := by
  rw [description, Text.isAllBlank, String.toList_ofList]
  decide

/-- **The bundled description**: it can be read, and is that of the interface of all these
functions. -/
theorem interface?_eq : interface? = some interface := by
  have hread : (Json.parse? description).bind Interface.ofJson? = some interface := by
    rw [funext ofJson?_eq_bind, ← Option.bind_assoc, items?_description]
    exact ofItems?_functions functions
  rw [interface?, Interface.parse, isAllBlank_description, if_neg Bool.false_ne_true, hread]
  rfl

end OffChain.Abi.StakingV1
