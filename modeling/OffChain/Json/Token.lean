import OffChain.Json.Basic
import OffChain.Bytes.Hex

/-!
# Tokens of JSON text

The lexical grammar of RFC 8259: punctuation, the three literal names, numbers and texts, with
blanks (space, tab, line feed, carriage return) between them.  No two tokens that may follow each
other in a document could be read as one, so a document's text and its list of tokens determine
each other up to blanks.
-/

namespace OffChain.Json

/-- A token of JSON text. -/
inductive Token where
  | openBrace
  | closeBrace
  | openBracket
  | closeBracket
  | comma
  | colon
  | null
  | bool (b : Bool)
  | number (lit : NumberLit)
  | text (s : Option String)
deriving DecidableEq

namespace Token

/-- The four characters that may stand between tokens. -/
def isBlank (c : Char) : Bool :=
  c == ' ' || c == '\t' || c == '\n' || c == '\r'

/-! ### Texts -/

/-- A part of a text between its quotes. -/
inductive Piece where
  /-- A character, as itself or by a short escape. -/
  | char (c : Char)
  /-- A 16-bit unit named by an escape of four digits. -/
  | unit (n : Nat)
deriving DecidableEq

/-- The 16-bit unit that four digits name. -/
def unit? (a b c d : Char) : Option Nat := do
  let a ← Hex.value? a
  let b ← Hex.value? b
  let c ← Hex.value? c
  let d ← Hex.value? d
  some (4096 * a + 256 * b + 16 * c + d)

/-- The character that a short escape stands for. -/
def unescape? : Char → Option Char
  | '"' => some '"'
  | '\\' => some '\\'
  | '/' => some '/'
  | 'b' => some (Char.ofNat 8)
  | 'f' => some (Char.ofNat 12)
  | 'n' => some '\n'
  | 'r' => some '\r'
  | 't' => some '\t'
  | _ => none

/-- Scans a text from behind its opening quote to behind its closing quote. -/
def scanText? : List Char → Option (List Piece × List Char)
  | [] => none
  | '"' :: rest => some ([], rest)
  | '\\' :: 'u' :: a :: b :: c :: d :: rest => do
    let u ← unit? a b c d
    let (pieces, rest) ← scanText? rest
    some (.unit u :: pieces, rest)
  | '\\' :: e :: rest => do
    let c ← unescape? e
    let (pieces, rest) ← scanText? rest
    some (.char c :: pieces, rest)
  | c :: rest =>
    if c.toNat < 32 || c == '\\' then none
    else do
      let (pieces, rest) ← scanText? rest
      some (.char c :: pieces, rest)

/-- Joins the units of surrogate pairs; `none` if one stands without its partner. -/
def joinPieces? : List Piece → Option (List Char)
  | [] => some []
  | .char c :: ps => do
    let cs ← joinPieces? ps
    some (c :: cs)
  | .unit h :: .unit l :: ps =>
    if 0xD800 ≤ h ∧ h < 0xDC00 then
      if 0xDC00 ≤ l ∧ l < 0xE000 then do
        let cs ← joinPieces? ps
        some (Char.ofNat (0x10000 + 1024 * (h - 0xD800) + (l - 0xDC00)) :: cs)
      else none
    else if 0xDC00 ≤ h ∧ h < 0xE000 then none
    else do
      let cs ← joinPieces? (.unit l :: ps)
      some (Char.ofNat h :: cs)
  | .unit h :: ps =>
    if 0xD800 ≤ h ∧ h < 0xE000 then none
    else do
      let cs ← joinPieces? ps
      some (Char.ofNat h :: cs)

/-! ### Numbers -/

/-- One or more digits, and what follows them. -/
def scanDigits? (cs : List Char) : Option (List Char × List Char) :=
  match cs.span Char.isDigit with
  | ([], _) => none
  | (digits, rest) => some (digits, rest)

/-- The part of a number after its point, if it has one. -/
def scanFraction? : List Char → Option (Option (List Char) × List Char)
  | '.' :: rest => do
    let (digits, rest) ← scanDigits? rest
    some (some digits, rest)
  | cs => some (none, cs)

/-- The sign of an exponent. -/
def scanSign : List Char → Bool × List Char
  | '-' :: rest => (true, rest)
  | '+' :: rest => (false, rest)
  | cs => (false, cs)

/-- The part of a number after its `e`, if it has one. -/
def scanExponent? : List Char → Option (Option (Bool × List Char) × List Char)
  | 'e' :: rest => do
    let (negative, rest) := scanSign rest
    let (digits, rest) ← scanDigits? rest
    some (some (negative, digits), rest)
  | 'E' :: rest => do
    let (negative, rest) := scanSign rest
    let (digits, rest) ← scanDigits? rest
    some (some (negative, digits), rest)
  | cs => some (none, cs)

/-- A number without its sign; its digits do not begin with a zero unless that is all of them. -/
def scanUnsigned? (negative : Bool) (cs : List Char) : Option (NumberLit × List Char) := do
  let (whole, rest) ← scanDigits? cs
  if whole.head? = some '0' ∧ whole ≠ ['0'] then none
  else do
    let (fraction, rest) ← scanFraction? rest
    let (exponent, rest) ← scanExponent? rest
    some (⟨negative, whole, fraction, exponent⟩, rest)

/-- A number. -/
def scanNumber? : List Char → Option (NumberLit × List Char)
  | '-' :: rest => scanUnsigned? true rest
  | cs => scanUnsigned? false cs

/-! ### Documents -/

/-- The first token of a text that does not begin with a blank, and what follows the token. -/
def scan? : List Char → Option (Token × List Char)
  | '\x7b' :: rest => some (.openBrace, rest)
  | '\x7d' :: rest => some (.closeBrace, rest)
  | '[' :: rest => some (.openBracket, rest)
  | ']' :: rest => some (.closeBracket, rest)
  | ',' :: rest => some (.comma, rest)
  | ':' :: rest => some (.colon, rest)
  | 'n' :: 'u' :: 'l' :: 'l' :: rest => some (.null, rest)
  | 't' :: 'r' :: 'u' :: 'e' :: rest => some (.bool true, rest)
  | 'f' :: 'a' :: 'l' :: 's' :: 'e' :: rest => some (.bool false, rest)
  | '"' :: rest => do
    let (pieces, rest) ← scanText? rest
    some (.text ((joinPieces? pieces).map String.ofList), rest)
  | cs => do
    let (lit, rest) ← scanNumber? cs
    some (.number lit, rest)

/-- The tokens of a text, reading at most `fuel` of them. -/
def scanAll? : Nat → List Char → Option (List Token)
  | _, [] => some []
  | 0, _ :: _ => none
  | fuel + 1, c :: cs =>
    if isBlank c then scanAll? fuel cs
    else do
      let (token, rest) ← scan? (c :: cs)
      let tokens ← scanAll? fuel rest
      some (token :: tokens)

/-- The tokens of a text.  A token takes at least one character, so the length of the text bounds
their number. -/
def ofChars? (cs : List Char) : Option (List Token) :=
  scanAll? cs.length cs

end Token

end OffChain.Json
