/-!
# Decimal texts

Natural numbers written by decimal digits without leading zeros, and the number that any digits
write.
-/

namespace OffChain.Decimal

/-- The decimal digits of a number, without leading zeros. -/
def digits (n : Nat) : List Char :=
  Nat.toDigits 10 n

/-- The decimal text of a number. -/
def text (n : Nat) : String :=
  String.ofList (digits n)

/-- The number that decimal digits write. -/
def value (cs : List Char) : Nat :=
  cs.foldl (fun n c => 10 * n + (c.toNat - 48)) 0

/-- The decimal text of an integer, with a minus sign if it is negative. -/
def intText (i : Int) : String :=
  if i < 0 then "-" ++ text i.natAbs else text i.natAbs

/-- The number that a text of one or more decimal digits writes. -/
def ofChars? (cs : List Char) : Option Nat :=
  if cs.isEmpty || !cs.all Char.isDigit then none else some (value cs)

/-- The integer that one or more decimal digits behind an optional sign write. -/
def signed? : List Char → Option Int
  | '-' :: cs => (ofChars? cs).map fun n => -(n : Int)
  | '+' :: cs => (ofChars? cs).map fun n => (n : Int)
  | cs => (ofChars? cs).map fun n => (n : Int)

/-- The digits of a number, filled up with leading zeros to a width. -/
def padded (width n : Nat) : String :=
  String.ofList (List.replicate (width - (digits n).length) '0' ++ digits n)

end OffChain.Decimal
