import OffChain.Json.Basic

/-!
# Documents that can be held as a whole

A reader that keeps a document, and does not just pass over the parts it has no use for, refuses
some documents that the grammar allows: texts that stand for no string, numbers beyond the range of
a double, and more than 127 arrays and objects inside each other.

A number is taken as a significand of at most 64 bits and a power of ten.  Digits that no longer
fit into the significand raise the power if they stand before the point and are dropped if they
stand behind it.  The number is out of range if the product of the two, each rounded to a double,
is.
-/

namespace OffChain

namespace NumberLit

/-- The significand and the power of ten that the digits before the point come to. -/
def wholePart : Nat → Nat → List Char → Nat × Nat
  | n, power, [] => (n, power)
  | n, power, c :: cs =>
    if power = 0 ∧ 10 * n + (c.toNat - 48) < UInt64.size then
      wholePart (10 * n + (c.toNat - 48)) 0 cs
    else wholePart n (power + 1) cs

/-- Continues a significand by the digits behind the point, as long as they fit, and counts
them. -/
def fractionPart : Nat → Nat → List Char → Nat × Nat
  | n, places, [] => (n, places)
  | n, places, c :: cs =>
    if 10 * n + (c.toNat - 48) < UInt64.size then
      fractionPart (10 * n + (c.toNat - 48)) (places + 1) cs
    else (n, places)

/-- A natural number rounded to 53 binary digits, a half going to the even neighbour. -/
def round53 (n : Nat) : Nat :=
  let unit := 1 <<< (n.log2 - 52)
  let q := n / unit
  let r := n % unit
  if 2 * r < unit ∨ (2 * r = unit ∧ q % 2 = 0) then q * unit else (q + 1) * unit

/-- The least number that rounds to no finite double. -/
def overflow : Nat :=
  Nat.pow 2 1024 - Nat.pow 2 970

/-- Whether a significand times a power of ten rounds to a finite double. -/
def isFinite (significand : Nat) (power : Int) : Bool :=
  significand == 0 || power < 0
    || (power ≤ 308 && round53 significand * round53 (Nat.pow 10 power.toNat) < overflow)

/-- Whether the number lies in the range of a double. -/
def fitsDouble (lit : NumberLit) : Bool :=
  let (n, power) := wholePart 0 0 lit.whole
  let (n, places) := fractionPart n 0 (lit.fraction.getD [])
  let power := (power : Int) - (places : Int)
  match lit.exponent with
  | none => isFinite n power
  | some (negative, digits) =>
    let e := Decimal.value digits
    if e < 0x80000000 then isFinite n (if negative then power - (e : Int) else power + (e : Int))
    else negative || n == 0

end NumberLit

namespace Json

mutual

/-- Whether all texts stand for strings and all numbers lie in the range of a double. -/
def isHeld : Json → Bool
  | .null => true
  | .bool _ => true
  | .number lit => lit.fitsDouble
  | .text s => s.isSome
  | .array items => areHeldItems items
  | .object members => areHeldMembers members
  | .unread => false

/-- The same for some items. -/
def areHeldItems : List Json → Bool
  | [] => true
  | v :: vs => isHeld v && areHeldItems vs

/-- The same for some members and their names. -/
def areHeldMembers : List (Option String × Json) → Bool
  | [] => true
  | (k, v) :: ms => k.isSome && isHeld v && areHeldMembers ms

end

/-- The greatest number of arrays and objects inside each other. -/
def maxDepth : Nat := 127

/-- Whether a document can be held as a whole. -/
def isHoldable (j : Json) : Bool :=
  j.depth ≤ maxDepth && isHeld j

end Json

end OffChain
