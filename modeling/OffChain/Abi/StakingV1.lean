import OffChain.Abi.Interface
import OffChain.Address

/-!
# The first staking interface

The staking contract was replaced in place, so calls made before a replacement may name functions
that its current interface no longer has.  The description of the callable part of its first
interface is kept here, to be read when it is needed.
-/

namespace OffChain.Abi

/-- The address of the staking contract. -/
def stakingContract : Address :=
  ⟨[0xFC, 0x00, 0xFA, 0xCE, 0, 0, 0, 0, 0, 0, 0, 0, 0, 0, 0, 0, 0, 0, 0, 0], rfl⟩

namespace StakingV1

/-- The description of the interface. -/
def description : String :=
  r#"[
  {"type":"function","name":"createStake","stateMutability":"payable",
   "inputs":[{"name":"metadata","type":"bytes"}],"outputs":[]},
  {"type":"function","name":"createStakeWithAddresses","stateMutability":"payable",
   "inputs":[{"name":"dagAdrress","type":"address"},{"name":"sfcAddress","type":"address"},{"name":"metadata","type":"bytes"}],"outputs":[]},
  {"type":"function","name":"increaseStake","stateMutability":"payable",
   "inputs":[],"outputs":[]},
  {"type":"function","name":"updateStakerMetadata","stateMutability":"nonpayable",
   "inputs":[{"name":"metadata","type":"bytes"}],"outputs":[]},
  {"type":"function","name":"updateStakerSfcAddress","stateMutability":"nonpayable",
   "inputs":[{"name":"newSfc","type":"address"}],"outputs":[]},
  {"type":"function","name":"createDelegation","stateMutability":"payable",
   "inputs":[{"name":"to","type":"uint256"}],"outputs":[]},
  {"type":"function","name":"claimDelegationRewards","stateMutability":"nonpayable",
   "inputs":[{"name":"maxEpochs","type":"uint256"}],"outputs":[]},
  {"type":"function","name":"claimValidatorRewards","stateMutability":"nonpayable",
   "inputs":[{"name":"maxEpochs","type":"uint256"}],"outputs":[]},
  {"type":"function","name":"prepareToWithdrawStake","stateMutability":"nonpayable",
   "inputs":[],"outputs":[]},
  {"type":"function","name":"prepareToWithdrawStakePartial","stateMutability":"nonpayable",
   "inputs":[{"name":"wrID","type":"uint256"},{"name":"amount","type":"uint256"}],"outputs":[]},
  {"type":"function","name":"withdrawStake","stateMutability":"nonpayable",
   "inputs":[],"outputs":[]},
  {"type":"function","name":"prepareToWithdrawDelegation","stateMutability":"nonpayable",
   "inputs":[],"outputs":[]},
  {"type":"function","name":"prepareToWithdrawDelegationPartial","stateMutability":"nonpayable",
   "inputs":[{"name":"wrID","type":"uint256"},{"name":"amount","type":"uint256"}],"outputs":[]},
  {"type":"function","name":"withdrawDelegation","stateMutability":"nonpayable",
   "inputs":[],"outputs":[]},
  {"type":"function","name":"partialWithdrawByRequest","stateMutability":"nonpayable",
   "inputs":[{"name":"wrID","type":"uint256"}],"outputs":[]},
  {"type":"function","name":"lockUpStake","stateMutability":"nonpayable",
   "inputs":[{"name":"lockDuration","type":"uint256"}],"outputs":[]},
  {"type":"function","name":"lockUpDelegation","stateMutability":"nonpayable",
   "inputs":[{"name":"lockDuration","type":"uint256"},{"name":"toStakerID","type":"uint256"}],"outputs":[]},
  {"type":"function","name":"stakersNum","stateMutability":"view",
   "inputs":[],"outputs":[{"name":"","type":"uint256"}]},
  {"type":"function","name":"stakersLastID","stateMutability":"view",
   "inputs":[],"outputs":[{"name":"","type":"uint256"}]},
  {"type":"function","name":"delegationsNum","stateMutability":"view",
   "inputs":[],"outputs":[{"name":"","type":"uint256"}]},
  {"type":"function","name":"currentEpoch","stateMutability":"view",
   "inputs":[],"outputs":[{"name":"","type":"uint256"}]},
  {"type":"function","name":"getStakerID","stateMutability":"view",
   "inputs":[{"name":"addr","type":"address"}],"outputs":[{"name":"","type":"uint256"}]},
  {"type":"function","name":"calcDelegationRewards","stateMutability":"view",
   "inputs":[{"name":"delegator","type":"address"},{"name":"_fromEpoch","type":"uint256"},{"name":"maxEpochs","type":"uint256"}],
   "outputs":[{"name":"","type":"uint256"},{"name":"","type":"uint256"},{"name":"","type":"uint256"}]},
  {"type":"function","name":"calcValidatorRewards","stateMutability":"view",
   "inputs":[{"name":"stakerID","type":"uint256"},{"name":"_fromEpoch","type":"uint256"},{"name":"maxEpochs","type":"uint256"}],
   "outputs":[{"name":"","type":"uint256"},{"name":"","type":"uint256"},{"name":"","type":"uint256"}]}
]"#

/-- The interface, if its description can be read. -/
def interface? : Option Interface :=
  (Interface.parse description).toOption

end StakingV1

end OffChain.Abi
