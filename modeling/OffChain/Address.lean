import OffChain.Bytes.Fixed
import OffChain.Keccak

/-!
# Account addresses

An address is twenty bytes.  Documents and tables carry its plain text, `0x` and lower-case digits.
Messages carry its checksum text: a letter stands in upper case exactly where the hash of the forty
lower-case digits has a hexadecimal digit of eight or more in the same place.
-/

namespace OffChain

/-- The address of an account. -/
abbrev Address := FixedBytes 20

namespace Address

/-- The letter-or-digit `c` in the case that the half byte `nibble` asks for. -/
def inCase (c : Char) (nibble : Nat) : Char :=
  if 8 ≤ nibble then c.toUpper else c

/-- The high and low half of every byte. -/
def nibbles (bs : Bytes) : List Nat :=
  bs.flatMap fun b => [b.toNat / 16, b.toNat % 16]

/-- The mixed-case text whose letters carry a checksum. -/
def checksum (a : Address) : String :=
  let digits := Hex.encode a.bytes
  let hash := Keccak.hash (digits.map fun c => UInt8.ofNat c.toNat)
  "0x" ++ String.ofList (List.zipWith inCase digits (nibbles hash))

end Address

end OffChain
