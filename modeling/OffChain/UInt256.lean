import OffChain.Bytes.Fixed
import OffChain.Text.Decimal

/-!
# 256-bit numbers and their texts

Identifiers and amounts are unsigned numbers of 256 bits.  Their written form is `0x` and the
hexadecimal digits without leading zeros.  Reading accepts more: a base mark `0x`, `0o` or `0b`
(either case of the letter) or none for decimal, then digits of either case; underscores are
skipped, no digits at all are zero, and a number of more than 256 bits is refused.
-/

namespace OffChain

/-- An unsigned number of 256 bits. -/
abbrev UInt256 := BitVec 256

namespace UInt256

/-! ### Reading -/

/-- The value of a digit in a base of at most 36. -/
def digit? (base : Nat) (c : Char) : Option Nat :=
  let v :=
    if 48 ≤ c.toNat ∧ c.toNat ≤ 57 then some (c.toNat - 48)
    else if 97 ≤ c.toNat ∧ c.toNat ≤ 122 then some (c.toNat - 87)
    else if 65 ≤ c.toNat ∧ c.toNat ≤ 90 then some (c.toNat - 55)
    else none
  v.filter (· < base)

/-- Continues a number by digits, skipping underscores. -/
def accumulate? (base : Nat) : Nat → List Char → Option Nat
  | n, [] => some n
  | n, '_' :: cs => accumulate? base n cs
  | n, c :: cs => do
    let d ← digit? base c
    accumulate? base (base * n + d) cs

/-- The base that a text is written in, and its digits. -/
def baseAndDigits : List Char → Nat × List Char
  | '0' :: 'x' :: cs => (16, cs)
  | '0' :: 'X' :: cs => (16, cs)
  | '0' :: 'o' :: cs => (8, cs)
  | '0' :: 'O' :: cs => (8, cs)
  | '0' :: 'b' :: cs => (2, cs)
  | '0' :: 'B' :: cs => (2, cs)
  | cs => (10, cs)

/-- The number if it has at most 256 bits. -/
def ofNat? (n : Nat) : Option UInt256 :=
  let number := BitVec.ofNat 256 n
  if number.toNat = n then some number else none

/-- The number that a text writes. -/
def ofText? (s : String) : Option UInt256 :=
  let (base, digits) := baseAndDigits s.toList
  (accumulate? base 0 digits).bind ofNat?

/-! ### Writing -/

/-- `0x` and the hexadecimal digits without leading zeros. -/
def toText (n : UInt256) : String :=
  "0x" ++ String.ofList (Nat.toDigits 16 n.toNat)

/-- The decimal digits without leading zeros. -/
def toDecimal (n : UInt256) : String :=
  Decimal.text n.toNat

/-- The thirty-two bytes of a number, the most significant one first. -/
def toBytes (n : UInt256) : Bytes :=
  Bytes.ofNat 32 n.toNat

end UInt256

end OffChain
