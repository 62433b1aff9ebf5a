import OffChain.Bytes.Hex

/-!
# Byte strings of a fixed length

Addresses, transaction hashes and function selectors are byte strings whose length is part of the
type.  Their text is `0x` and the digits; reading accepts exactly the right number of digits, of
either case, with or without the `0x`.  A byte string also is a number, its first byte being the
most significant one.
-/

namespace OffChain

/-- The number that a byte string writes in base 256, first byte first. -/
def Bytes.toNat (bs : Bytes) : Nat :=
  bs.foldl (fun n b => 256 * n + b.toNat) 0

/-- The `n` lowest base-256 digits of a number, the most significant one first. -/
def Bytes.ofNat : Nat → Nat → Bytes
  | 0, _ => []
  | n + 1, k => Bytes.ofNat n (k / 256) ++ [UInt8.ofNat (k % 256)]

/-- A byte string of length `n`. -/
structure FixedBytes (n : Nat) where
  /-- The bytes, first one first. -/
  bytes : Bytes
  /-- There are `n` of them. -/
  length_bytes : bytes.length = n
deriving DecidableEq

namespace FixedBytes

variable {n : Nat}

/-- A byte string as one of a fixed length, if it has that length. -/
def ofBytes? (bs : Bytes) : Option (FixedBytes n) :=
  if h : bs.length = n then some ⟨bs, h⟩ else none

/-- Reads exactly `2 * n` digits of either case, with or without a leading `0x`. -/
def ofText? (s : String) : Option (FixedBytes n) :=
  (Hex.ofText? s).bind ofBytes?

/-- `0x` and the lower-case digits. -/
def toText (b : FixedBytes n) : String :=
  Hex.toText b.bytes

/-- All bytes zero. -/
def zero : FixedBytes n :=
  ⟨List.replicate n 0, by simp⟩

/-- The number that the bytes write. -/
def toNat (b : FixedBytes n) : Nat :=
  Bytes.toNat b.bytes

@[ext]
theorem ext {a b : FixedBytes n} (h : a.bytes = b.bytes) : a = b := by
  cases a; cases b; simp_all

@[simp]
theorem ofBytes?_bytes (b : FixedBytes n) : ofBytes? b.bytes = some b := by
  simp [ofBytes?, b.length_bytes]

@[simp]
theorem ofText?_toText (b : FixedBytes n) : ofText? b.toText = some b := by
  simp [ofText?, toText]

end FixedBytes

/-- The hash that names a transaction. -/
abbrev Hash := FixedBytes 32

/-- The first four bytes of call data, which name the called function. -/
abbrev Selector := FixedBytes 4

/-- The selector that call data begins with, if it is long enough to carry one. -/
def Selector.ofInput? (input : Bytes) : Option Selector :=
  FixedBytes.ofBytes? (input.take 4)

/-- The digits of a selector, without `0x`. -/
def Selector.digits (s : Selector) : String :=
  String.ofList (Hex.encode s.bytes)

end OffChain
