import OffChain.Json.Parser
import OffChain.Text.Slice

/-!
# Arrays that break off

Byte strings of some lengths, those of addresses and hashes, can be given as arrays of byte numbers.
Who reads one takes as many bytes as it has and then tries one more; if that fails at a place where
the array ends, the array is taken, whatever the failed attempt has passed over.  So an array of so
many bytes can break off within one more item: in a number without digits behind its point, in a
name that is none, in a text with an escape that is none, or right behind a comma.

A failed attempt stops behind the character that it cannot use, except that it does not take in one
that ends a number.
-/

namespace OffChain.Json

namespace Attempt

/-- What follows a character that cannot be used; the attempt takes in one byte of it, so that the
rest begins with a character only if there is no other byte. -/
def behind (c : Char) (rest : List Char) : Option (List Char) :=
  if c.toNat < 128 then some rest else none

/-- What is left of a name whose remaining letters are given. -/
def name? : List Char → List Char → Option (List Char)
  | [], cs => some cs
  | _ :: _, [] => none
  | e :: es, c :: cs => if c = e then name? es cs else behind c cs

/-! ### Numbers -/

/-- What is left of the digits of an exponent; `n` is its value so far.  If it must not leave the
range of 32 bits, the attempt stops where it does. -/
def exponentDigits (isBounded : Bool) : Nat → List Char → List Char
  | _, [] => []
  | n, c :: cs =>
    if c.isDigit then
      let n := 10 * n + (c.toNat - 48)
      if isBounded && 0x7FFFFFFF < n then cs else exponentDigits isBounded n cs
    else c :: cs

/-- What is left of an exponent behind its `e`, `isZero` if the number is zero whatever it is. -/
def exponent? (isZero : Bool) (cs : List Char) : Option (List Char) :=
  let (isNegative, rest) := Token.scanSign cs
  match rest with
  | [] => none
  | c :: rest =>
    if c.isDigit then some (exponentDigits (!isZero && !isNegative) (c.toNat - 48) rest)
    else behind c rest

/-- What is left of a number behind the digits of its whole part, unless it is a byte. -/
def number? (isNegative : Bool) (whole rest : List Char) : Option (List Char) :=
  let isZero (digits : List Char) := digits.all fun c => c == '0'
  match rest with
  | '.' :: rest =>
    match rest.span Char.isDigit with
    | ([], rest) => some rest
    | (fraction, 'e' :: rest) => exponent? (isZero (whole ++ fraction)) rest
    | (fraction, 'E' :: rest) => exponent? (isZero (whole ++ fraction)) rest
    | (_, rest) => some rest
  | 'e' :: rest => exponent? (isZero whole) rest
  | 'E' :: rest => exponent? (isZero whole) rest
  | rest => if !isNegative && Decimal.value whole < UInt8.size then none else some rest

/-- What is left of a number, unless it is a byte. -/
def signed? (isNegative : Bool) (cs : List Char) : Option (List Char) :=
  match cs with
  | '0' :: rest => number? isNegative ['0'] rest
  | _ =>
    match cs.span Char.isDigit with
    | ([], []) => none
    | ([], c :: rest) => behind c rest
    | (whole, rest) => number? isNegative whole rest

/-! ### Texts -/

/-- What is left behind four bytes, and the 16-bit unit that they name, if they name one. -/
def unit? (cs : List Char) : Option (Option Nat × List Char) := do
  let digits ← Text.takeBytes? 4 cs
  let rest ← Text.dropBytes? 4 cs
  match digits with
  | [a, b, c, d] => some (Token.unit? a b c d, rest)
  | _ => some (none, rest)

/-- What is left of a text behind its opening quote, reading at most `fuel` characters. -/
def text? : Nat → List Char → Option (List Char)
  | 0, _ => none
  | _, [] => none
  | _ + 1, '"' :: rest => some rest
  | fuel + 1, '\\' :: 'u' :: rest => do
    let (high?, rest) ← unit? rest
    match high? with
    | none => some rest
    | some high =>
      if high < 0xD800 || 0xE000 ≤ high then text? fuel rest
      else if 0xDC00 ≤ high then some rest
      else
        match rest with
        | '\\' :: 'u' :: rest => do
          let (low?, rest) ← unit? rest
          if low?.any fun low => 0xDC00 ≤ low && low < 0xE000 then text? fuel rest
          else some rest
        | '\\' :: c :: rest => behind c rest
        | ['\\'] => none
        | c :: rest => behind c rest
        | [] => none
  | fuel + 1, '\\' :: c :: rest =>
    if (Token.unescape? c).isSome then text? fuel rest else behind c rest
  | fuel + 1, c :: rest =>
    if c = '\\' then none else if c.toNat < 32 then some rest else text? fuel rest

/-! ### Items -/

/-- What is left where the attempt to read a byte fails. -/
def rest? : List Char → Option (List Char)
  | ']' :: cs => some (']' :: cs)
  | '-' :: cs => signed? true cs
  | '"' :: cs => text? (cs.length + 1) cs
  | 'n' :: cs => name? ['u', 'l', 'l'] cs
  | 't' :: cs => name? ['r', 'u', 'e'] cs
  | 'f' :: cs => name? ['a', 'l', 's', 'e'] cs
  | c :: cs => if c.isDigit then signed? false (c :: cs) else none
  | [] => none

end Attempt

/-! ### Documents -/

/-- The lengths of the byte strings whose arrays can break off. -/
def brokenLengths : List Nat :=
  [20, 32]

/-- Whether an array of some items can break off. -/
def canBreakOff (items : List Json) : Bool :=
  brokenLengths.contains items.length && items.all fun j => j.toByte?.isSome

/-- Whether a text begins with an item, and not with a text that stands for no string. -/
def beginsWithItem (cs : List Char) : Bool :=
  match Token.scan? cs with
  | some (.text s, _) => s.isSome
  | some (token, _) => (State.begin? [] token).isSome
  | none => false

/-- What follows an array that breaks off. -/
def behindBreak? (cs : List Char) : Option (List Char) :=
  match (Attempt.rest? cs).map (List.dropWhile Token.isBlank) with
  | some (']' :: rest) => some rest
  | _ => none

/-- The state after an array that breaks off, and what follows it. -/
def breakOff? : State → List Char → Option (State × List Char)
  | .value (.array items :: outer), cs =>
    if canBreakOff items && !beginsWithItem cs then
      (behindBreak? cs).map fun rest => (.after (.array (.unread :: items).reverse) outer, rest)
    else none
  | _, _ => none

/-- The document that a text continues, reading at most `fuel` tokens and blanks. -/
def runLoosely? : Nat → State → List Char → Option Json
  | _, s, [] => s.result?
  | 0, _, _ :: _ => none
  | fuel + 1, s, c :: cs =>
    if Token.isBlank c then runLoosely? fuel s cs
    else
      match breakOff? s (c :: cs) with
      | some (s, rest) => runLoosely? fuel s rest
      | none => do
        let (token, rest) ← Token.scan? (c :: cs)
        let s ← s.step? token
        runLoosely? fuel s rest

/-- The document that a text writes, in which arrays of bytes can break off. -/
def parseLoosely? (s : String) : Option Json :=
  runLoosely? s.toList.length (.value []) s.toList

/-- What a text is read as.  An array that could break off is read to its end if the value can be
read then, as it is in a member that no one asks for. -/
def read? {α : Type} (ofJson? : Json → Option α) (s : String) : Option α :=
  ((parse? s).bind ofJson?).or ((parseLoosely? s).bind ofJson?)

end OffChain.Json
