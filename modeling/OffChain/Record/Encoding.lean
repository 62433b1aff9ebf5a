import OffChain.Json.Fields
import OffChain.Bytes.Fixed
import OffChain.UInt256

/-!
# Byte strings and numbers in documents

A byte string is written as its text and read from its text or from an array of byte numbers.  For
a byte string of a fixed length, an array may hold one further item that the attempt to read a byte
does away with: a scalar, but no byte number, or what was left unread.  A 256-bit number is written
as its text and read from any of its texts or from a number of at most 64 bits.
-/

namespace OffChain

/-- The document of a byte string. -/
def Bytes.toJson (bs : Bytes) : Json :=
  .ofString (Hex.toText bs)

/-- Reads a byte string. -/
def Bytes.ofJson? : Json → Option Bytes
  | .text (some s) => Hex.ofText? s
  | .array items => items.mapM Json.toByte?
  | _ => none

namespace FixedBytes

variable {n : Nat}

/-- Whether the attempt to read a byte does away with a number.  It stops early where an exponent
leaves the range of 32 bits, unless the number is zero or tiny. -/
def isNumberPassedOver (lit : NumberLit) : Bool :=
  match lit.exponent with
  | some (false, digits) =>
    Decimal.value digits.dropLast < 0x80000000
      || (lit.whole ++ lit.fraction.getD []).all (fun c => c == '0')
  | _ => true

/-- What may follow the bytes in an array. -/
def isPassedOver : List Json → Bool
  | [] => true
  | [.number lit] => (Json.number lit).toByte?.isNone && isNumberPassedOver lit
  | [.text s] => s.isSome
  | [j] => j.isScalar
  | _ => false

/-- The document of a byte string of a fixed length. -/
def toJson (b : FixedBytes n) : Json :=
  .ofString b.toText

/-- Reads a byte string of a fixed length. -/
def ofJson? : Json → Option (FixedBytes n)
  | .text (some s) => ofText? s
  | .array items =>
    if isPassedOver (items.drop n) then ((items.take n).mapM Json.toByte?).bind ofBytes?
    else none
  | _ => none

end FixedBytes

namespace UInt256

/-- The document of a number. -/
def toJson (n : UInt256) : Json :=
  .ofString (UInt256.toText n)

/-- Reads a number. -/
def ofJson? : Json → Option UInt256
  | .text (some s) => ofText? s
  | j => j.toUInt64?.map fun n => BitVec.ofNat 256 n.toNat

end UInt256

/-- The document of a number of 64 bits. -/
def Json.ofUInt64 (n : UInt64) : Json :=
  .ofNat n.toNat

end OffChain
