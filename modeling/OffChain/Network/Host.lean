import OffChain.Network.Domain.Name
import OffChain.Text.Decimal
import OffChain.Text.Utf8

/-!
# Hosts

A host is a name or a number.  Numbers have two forms: four bytes, written as up to four numerals
between dots, and eight groups of hexadecimal digits between colons, which stand in brackets.  A
name whose last label looks like a numeral is taken for a number.
-/

namespace OffChain.Network.Host

/-! ### Four bytes -/

/-- The value of the digits of a base; `none` if some character is no digit of it. -/
def digitsValue? (base : Nat) (cs : List Char) : Option Nat :=
  (cs.mapM fun c => (Hex.value? c).filter (· < base)).map fun ds =>
    ds.foldl (fun n d => base * n + d) 0

/-- The value of a numeral: decimal, octal behind a zero, hexadecimal behind `0x`. -/
def numeral? : List Char → Option Nat
  | [] => none
  | '0' :: 'x' :: cs => digitsValue? 16 cs
  | '0' :: c :: cs => digitsValue? 8 (c :: cs)
  | cs => digitsValue? 10 cs

/-- The labels without an empty one at the end. -/
def withoutRoot (labels : List (List Char)) : List (List Char) :=
  if labels.getLast? = some [] then labels.dropLast else labels

/-- Whether a name is taken for a number. -/
def endsInNumber (labels : List (List Char)) : Bool :=
  (withoutRoot labels).getLast?.any fun label =>
    (!label.isEmpty && label.all Char.isDigit) || (numeral? label).isSome

/-- Whether labels are numerals for four bytes: one for each of the first bytes, and the last one
for all others. -/
def isNumber (labels : List (List Char)) : Bool :=
  match (withoutRoot labels).mapM numeral? with
  | none => false
  | some numbers =>
    numbers.length ≤ 4 && numbers.dropLast.all (· < 256)
      && numbers.getLast?.any (· < Nat.pow 256 (5 - numbers.length))

/-! ### Eight groups -/

/-- Whether a text is a group of hexadecimal digits. -/
def isGroup (cs : List Char) : Bool :=
  1 ≤ cs.length && cs.length ≤ 4 && cs.all fun c => (Hex.value? c).isSome

/-- Whether a text is a byte in decimal digits, without needless zeros. -/
def isByte (cs : List Char) : Bool :=
  !cs.isEmpty && cs.length ≤ 3 && cs.all Char.isDigit && Decimal.value cs < 256
    && (cs.length = 1 || cs.head? != some '0')

/-- Whether a text is four bytes between dots. -/
def isFourBytes (cs : List Char) : Bool :=
  let bytes := Text.splitAt '.' cs
  bytes.length = 4 && bytes.all isByte

/-- The number of groups that a text is made of; the last two can be written as four bytes. -/
def groupCount? (cs : List Char) : Option Nat :=
  if cs.isEmpty then some 0
  else
    let groups := Text.splitAt ':' cs
    if groups.all isGroup then some groups.length
    else if groups.dropLast.all isGroup && groups.getLast?.any isFourBytes then
      some (groups.length + 1)
    else none

/-- What stands before the first pair of colons and what stands behind it. -/
def splitGap? : List Char → Option (List Char × List Char)
  | ':' :: ':' :: cs => some ([], cs)
  | c :: cs => (splitGap? cs).map fun (before, behind) => (c :: before, behind)
  | [] => none

/-- Whether a text is eight groups; a pair of colons stands for those that are left out. -/
def isLongNumber (cs : List Char) : Bool :=
  match splitGap? cs with
  | none => groupCount? cs == some 8
  | some (before, behind) =>
    match groupCount? before, groupCount? behind with
    | some m, some n => m + n ≤ 7 && !before.contains '.'
    | _, _ => false

/-- Whether a text that begins with a bracket is eight groups in brackets. -/
def isBracketed (cs : List Char) : Bool :=
  cs.getLast? == some ']' && isLongNumber (cs.drop 1).dropLast

/-! ### Names -/

/-- The bytes of a text in which a percent sign and two hexadecimal digits stand for a byte. -/
def unescape : Bytes → Bytes
  | 37 :: x :: y :: bs =>
    match Hex.value? (Char.ofNat x.toNat), Hex.value? (Char.ofNat y.toNat) with
    | some h, some l => UInt8.ofNat (16 * h + l) :: unescape bs
    | _, _ => 37 :: unescape (x :: y :: bs)
  | b :: bs => b :: unescape bs
  | [] => []

/-- Whether a text is a host of a web URL. -/
def isWebHost (cs : List Char) : Bool :=
  if cs.head? = some '[' then isBracketed cs
  else
    match Domain.ofChars? (Text.ofUtf8 (unescape (String.ofList cs).toUTF8.toList)).toList with
    | none => false
    | some labels => !endsInNumber labels || isNumber labels

/-- A character that no host has. -/
def isRefused (c : Char) : Bool :=
  "\x00\t\n\r #/:<>?@[\\]^|".toList.contains c

/-- Whether a text is a host of another URL, where names follow rules of their own. -/
def isOtherHost (cs : List Char) : Bool :=
  if cs.head? = some '[' then isBracketed cs else !cs.any isRefused

end OffChain.Network.Host
