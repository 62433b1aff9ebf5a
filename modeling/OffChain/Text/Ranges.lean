/-!
# Sets of characters

Properties of characters that Unicode tabulates hold of whole ranges of characters, so a set of
characters is a list of ranges of their numbers.
-/

namespace OffChain.Text

/-- Ranges of characters, each given by its first and its last number. -/
abbrev Ranges := List (Nat × Nat)

namespace Ranges

/-- Whether a character lies in one of the ranges. -/
def contains (ranges : Ranges) (c : Char) : Bool :=
  ranges.any fun r => r.1 ≤ c.toNat && c.toNat ≤ r.2

end Ranges

end OffChain.Text
