import OffChain.Text.Decimal

/-!
# Numbers in texts

A text that is given for a number is a number if it is a numeral: digits, perhaps with a point among
them or at either end, perhaps with a sign before them and an exponent behind them, and perhaps with
blanks around all that.

A numeral without point and exponent is exact if it fits into 64 bits.  All others are taken at the
precision of binary floating point, in three steps: of the digits only about the first nineteen
count; the power of ten is multiplied in with 64 binary digits, by powers of a hundred, ten and one
digits; and the product is rounded to 53.
-/

namespace OffChain.Store

/-! ### Binary numbers -/

/-- The number `mantissa · 2 ^ exponent`. -/
structure Binary where
  /-- The mantissa, with the sign. -/
  mantissa : Int
  /-- The exponent. -/
  exponent : Int
deriving DecidableEq, Repr

namespace Binary

/-- An integer. -/
def ofInt (i : Int) : Binary :=
  ⟨i, 0⟩

/-- The mantissa of the number for a smaller exponent. -/
def mantissaAt (x : Binary) (exponent : Int) : Int :=
  x.mantissa * Nat.pow 2 (x.exponent - exponent).toNat

/-- The order of numbers. -/
def le (x y : Binary) : Bool :=
  let exponent := min x.exponent y.exponent
  x.mantissaAt exponent ≤ y.mantissaAt exponent

/-- The greatest natural number below a number that is not negative, and whether it is the
number. -/
def floor (x : Binary) : Nat × Bool :=
  if 0 ≤ x.exponent then (x.mantissa.toNat * Nat.pow 2 x.exponent.toNat, true)
  else
    let unit := Nat.pow 2 (-x.exponent).toNat
    (x.mantissa.toNat / unit, x.mantissa.toNat % unit == 0)

end Binary

/-! ### Rounding -/

/-- The nearest number of at most `digits` binary digits to `m · 2 ^ e`, none of them below
`2 ^ least`; a half goes to the even neighbour. -/
def roundTo (digits : Nat) (least : Int) (m : Nat) (e : Int) : Nat × Int :=
  let excess := max ((m.log2 : Int) + 1 - digits) (least - e)
  if m = 0 || excess ≤ 0 then (m, e)
  else
    let unit := Nat.pow 2 excess.toNat
    let q := m / unit
    let r := m % unit
    (if 2 * r < unit || (2 * r = unit && q % 2 = 0) then q else q + 1, e + excess)

/-- A number with 64 binary digits; no exponent is too small for it. -/
def round64 (m : Nat) (e : Int) : Nat × Int :=
  roundTo 64 e m e

/-- The number of 64 binary digits that is nearest to `1 / n`. -/
def reciprocal (n : Nat) : Nat × Int :=
  let places := n.log2 + 64
  ((2 * Nat.pow 2 places / n + 1) / 2, -(places : Int))

/-- A number multiplied by a factor several times, with 64 binary digits. -/
def multiplied (factor : Nat × Int) : Nat → Nat × Int → Nat × Int
  | 0, x => x
  | times + 1, x =>
    multiplied factor times (round64 (x.1 * factor.1) (x.2 + factor.2))

/-- A significand times a power of ten, with 64 binary digits. -/
def timesPowerOfTen (significand : Nat) (power : Int) : Nat × Int :=
  let factor (digits : Nat) : Nat × Int :=
    let n := Nat.pow 10 digits
    if 0 ≤ power then round64 n 0 else reciprocal n
  let n := power.natAbs
  multiplied (factor 1) (n % 10)
    (multiplied (factor 10) (n % 100 / 10) (multiplied (factor 100) (n / 100) (significand, 0)))

/-- The greatest finite number of double precision. -/
def maxDouble : Binary :=
  ⟨0x1FFFFFFFFFFFFF, 971⟩

/-- What stands for a number beyond all finite ones of double precision. -/
def infinite : Nat × Int :=
  (1, 1024)

/-- A number at double precision. -/
def toDouble (x : Nat × Int) : Nat × Int :=
  if Binary.le ⟨x.1, x.2⟩ maxDouble then roundTo 53 (-1074) x.1 x.2 else infinite

/-! ### Numerals -/

/-- The parts of a numeral. -/
structure Numeral where
  /-- Whether a minus sign precedes it. -/
  negative : Bool
  /-- The digits before the point. -/
  whole : List Char
  /-- The digits behind the point, if there is one. -/
  fraction : Option (List Char)
  /-- The exponent, if there is one: whether it is negative, and its digits. -/
  exponent : Option (Bool × List Char)
deriving DecidableEq, Repr

namespace Numeral

/-- A blank around a numeral. -/
def isMargin (c : Char) : Bool :=
  c == ' ' || (9 ≤ c.toNat && c.toNat ≤ 13)

/-- A sign, if there is one, and what follows it. -/
def splitSign : List Char → Bool × List Char
  | '-' :: cs => (true, cs)
  | '+' :: cs => (false, cs)
  | cs => (false, cs)

/-- The part behind the point, if there is one, and what follows it. -/
def splitFraction : List Char → Option (List Char) × List Char
  | '.' :: cs => (some (cs.takeWhile Char.isDigit), cs.dropWhile Char.isDigit)
  | cs => (none, cs)

/-- The exponent, if there is one, and what follows it; an exponent has digits. -/
def splitExponent? : List Char → Option (Option (Bool × List Char) × List Char)
  | [] => some (none, [])
  | c :: cs =>
    if c = 'e' || c = 'E' then
      let (negative, cs) := splitSign cs
      let digits := cs.takeWhile Char.isDigit
      if digits.isEmpty then none else some (some (negative, digits), cs.dropWhile Char.isDigit)
    else some (none, c :: cs)

/-- The numeral of a text. -/
def ofChars? (cs : List Char) : Option Numeral := do
  let (negative, cs) := splitSign (cs.dropWhile isMargin)
  let whole := cs.takeWhile Char.isDigit
  let (fraction, rest) := splitFraction (cs.dropWhile Char.isDigit)
  let (exponent, rest) ← splitExponent? rest
  if rest.all isMargin && !(whole ++ fraction.getD []).isEmpty then
    some ⟨negative, whole, fraction, exponent⟩
  else none

/-- The integer that a numeral without point and exponent writes. -/
def integer? (n : Numeral) : Option Int :=
  if n.fraction.isSome || n.exponent.isSome then none
  else some (if n.negative then -(Decimal.value n.whole : Int) else Decimal.value n.whole)

/-! ### Values -/

/-- From here on a significand takes in no more digits. -/
def fullSignificand : Nat :=
  1844674407370955160

/-- A significand with the digits before the point, and the number of those that it does not take
in. -/
def takeWhole : Nat → List Char → Nat × Nat
  | s, [] => (s, 0)
  | s, c :: cs =>
    let s := 10 * s + (c.toNat - 48)
    if fullSignificand ≤ s then (s, cs.length) else takeWhole s cs

/-- A significand with the digits behind the point, and the number of those that it takes in. -/
def takeFraction : Nat → List Char → Nat × Nat
  | s, [] => (s, 0)
  | s, c :: cs =>
    if s < fullSignificand then
      let (s, n) := takeFraction (10 * s + (c.toNat - 48)) cs
      (s, n + 1)
    else (s, 0)

/-- The number that the digits of an exponent write, as far as it matters. -/
def exponentValue (digits : List Char) : Nat :=
  digits.foldl (fun e c => if e < 10000 then 10 * e + (c.toNat - 48) else 10000) 0

/-- Moves powers of ten into a significand as long as it has room for them. -/
def enlarge : Nat → Nat → Nat × Nat
  | s, 0 => (s, 0)
  | s, power + 1 => if s ≤ fullSignificand then enlarge (10 * s) power else (s, power + 1)

/-- Moves powers of ten out of a significand that is a multiple of them. -/
def reduce : Nat → Nat → Nat × Nat
  | s, 0 => (s, 0)
  | s, places + 1 => if s % 10 = 0 then reduce (s / 10) places else (s, places + 1)

/-- The significand and the power of ten of a numeral that is not zero. -/
def parts (n : Numeral) : Nat × Int :=
  let (s, dropped) := takeWhole 0 n.whole
  let (s, places) := takeFraction s (n.fraction.getD [])
  let exponent : Int :=
    match n.exponent with
    | none => 0
    | some (negative, digits) =>
      if negative then -(exponentValue digits : Int) else exponentValue digits
  let power := exponent + dropped - places
  if s = 0 then (0, 0)
  else if 0 ≤ power then
    let (s, power) := enlarge s power.toNat
    (s, power)
  else
    let (s, places) := reduce s power.natAbs
    (s, -(places : Int))

/-- The absolute value of a numeral at double precision. -/
def magnitude (n : Numeral) : Nat × Int :=
  let (s, power) := n.parts
  if power = 0 then roundTo 53 (-1074) s 0 else toDouble (timesPowerOfTen s power)

/-- The value of a numeral at double precision. -/
def value (n : Numeral) : Binary :=
  let (m, e) := n.magnitude
  ⟨if n.negative then -(m : Int) else m, e⟩

end Numeral

end OffChain.Store
