import OffChain.Abi.StakingV1

/-!
# Configuration

The addresses and sizes that the archive and its worker go by.
-/

namespace OffChain

/-- The configuration of a archive. -/
structure Config where
  /-- The contract whose calls may also name functions of its first interface. -/
  stakingContract : Address
  /-- The contract that knows where validators publish their metadata. -/
  infoContract : Address
  /-- For how many milliseconds a cached record is good. -/
  cacheLifetime : Nat
  /-- How many bytes the cache may hold. -/
  cacheBudget : Nat
  /-- How many calls can wait for the worker. -/
  queueLength : Nat
deriving DecidableEq

namespace Config

/-- The configuration that holds unless something else is asked for: fifteen minutes and four
gibibytes for the cache, and no contract that knows of metadata. -/
def standard : Config :=
  { stakingContract := Abi.stakingContract
    infoContract := FixedBytes.zero
    cacheLifetime := 15 * 60 * 1000
    cacheBudget := 4096 * 1048576
    queueLength := 50000 }

end Config

end OffChain
