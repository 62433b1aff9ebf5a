import OffChain.Bytes.Hex
import OffChain.Store.Row

/-!
# Cursors

A cursor is the text of a row number: `0x` and hexadecimal digits.  Reading accepts more than is
ever written: the `0x` may be left out, a sign may precede the digits, leading zeros and capitals
are fine; but the number has to lie in the range of 64-bit integers.
-/

namespace OffChain.Store.Cursor

/-- The cursor of a row number. -/
def text (seq : Nat) : String :=
  "0x" ++ String.ofList (Nat.toDigits 16 seq)

/-- The number that hexadecimal digits continue. -/
def continue? : Nat → List Char → Option Nat
  | n, [] => some n
  | n, c :: cs => (Hex.value? c).bind fun d => continue? (16 * n + d) cs

/-- The number that one or more hexadecimal digits write. -/
def magnitude? (cs : List Char) : Option Nat :=
  if cs.isEmpty then none else continue? 0 cs

/-- The number that digits behind an optional sign write. -/
def signed? : List Char → Option Int
  | '-' :: cs => (magnitude? cs).map fun n => -(n : Int)
  | '+' :: cs => (magnitude? cs).map fun n => (n : Int)
  | cs => (magnitude? cs).map fun n => (n : Int)

/-- The number that a cursor stands for. -/
def number? (s : String) : Option Int :=
  (signed? (Hex.body s.toList)).filter isStorable

/-- The number that a cursor stands for, or the complaint that it is none. -/
def read (s : String) : Except StoreError Int :=
  match number? s with
  | some i => .ok i
  | none => .error (.invalidCursor s)

end OffChain.Store.Cursor
