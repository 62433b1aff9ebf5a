import OffChain.Json.Basic
import OffChain.Bytes.Hex

/-!
# Writing JSON documents

The compact form has no blanks.  The indented form puts every item and member on a line of its own,
two blanks further in than what encloses it; an array or object without any stays on one line.  In
a text, the quote, the backslash and the characters below U+0020 are escaped, the latter by a short
escape where there is one, and nothing else.
-/

namespace OffChain.Json

/-! ### Scalars -/

/-- A character as it stands in a text. -/
def escape (c : Char) : List Char :=
  if c = '"' then ['\\', '"']
  else if c = '\\' then ['\\', '\\']
  else if c = Char.ofNat 8 then ['\\', 'b']
  else if c = Char.ofNat 12 then ['\\', 'f']
  else if c = '\n' then ['\\', 'n']
  else if c = '\r' then ['\\', 'r']
  else if c = '\t' then ['\\', 't']
  else if c.toNat < 32 then
    ['\\', 'u', '0', '0', Hex.digit (c.toNat / 16), Hex.digit (c.toNat % 16)]
  else [c]

/-- A text with its quotes.  One that stands for no string is written as half of a surrogate
pair. -/
def renderText : Option String → List Char
  | some s => '"' :: s.toList.flatMap escape ++ ['"']
  | none => ['"', '\\', 'u', 'd', '8', '0', '0', '"']

/-- A number. -/
def renderNumber (lit : NumberLit) : List Char :=
  (if lit.negative then ['-'] else []) ++ lit.whole
    ++ (match lit.fraction with
      | none => []
      | some digits => '.' :: digits)
    ++ (match lit.exponent with
      | none => []
      | some (negative, digits) => 'e' :: (if negative then '-' :: digits else digits))

/-- A truth value. -/
def renderBool : Bool → List Char
  | true => ['t', 'r', 'u', 'e']
  | false => ['f', 'a', 'l', 's', 'e']

/-- The name of the absent value. -/
def renderNull : List Char :=
  ['n', 'u', 'l', 'l']

/-! ### The compact form -/

mutual

/-- The compact form of a document. -/
def renderChars : Json → List Char
  | .null => renderNull
  | .bool b => renderBool b
  | .number lit => renderNumber lit
  | .text s => renderText s
  | .array [] => ['[', ']']
  | .array (v :: vs) => '[' :: renderChars v ++ renderItems vs ++ [']']
  | .object [] => ['\x7b', '\x7d']
  | .object ((k, v) :: ms) =>
    '\x7b' :: renderText k ++ ':' :: renderChars v ++ renderMembers ms ++ ['\x7d']
  | .unread => []

/-- Further items, each behind a comma. -/
def renderItems : List Json → List Char
  | [] => []
  | v :: vs => ',' :: renderChars v ++ renderItems vs

/-- Further members, each behind a comma. -/
def renderMembers : List (Option String × Json) → List Char
  | [] => []
  | (k, v) :: ms => ',' :: renderText k ++ ':' :: renderChars v ++ renderMembers ms

end

/-- The compact form of a document. -/
def render (j : Json) : String :=
  String.ofList (renderChars j)

/-! ### The indented form -/

/-- A line break and the blanks of an indentation. -/
def newLine (level : Nat) : List Char :=
  '\n' :: List.replicate (2 * level) ' '

mutual

/-- The indented form of a document that stands at the indentation `level`. -/
def prettyChars (level : Nat) : Json → List Char
  | .null => renderNull
  | .bool b => renderBool b
  | .number lit => renderNumber lit
  | .text s => renderText s
  | .array [] => ['[', ']']
  | .array (v :: vs) =>
    '[' :: newLine (level + 1) ++ prettyChars (level + 1) v ++ prettyItems (level + 1) vs
      ++ newLine level ++ [']']
  | .object [] => ['\x7b', '\x7d']
  | .object ((k, v) :: ms) =>
    '\x7b' :: newLine (level + 1) ++ renderText k ++ ':' :: ' ' :: prettyChars (level + 1) v
      ++ prettyMembers (level + 1) ms ++ newLine level ++ ['\x7d']
  | .unread => []

/-- Further items, each behind a comma and on a new line. -/
def prettyItems (level : Nat) : List Json → List Char
  | [] => []
  | v :: vs => ',' :: newLine level ++ prettyChars level v ++ prettyItems level vs

/-- Further members, each behind a comma and on a new line. -/
def prettyMembers (level : Nat) : List (Option String × Json) → List Char
  | [] => []
  | (k, v) :: ms =>
    ',' :: newLine level ++ renderText k ++ ':' :: ' ' :: prettyChars level v
      ++ prettyMembers level ms

end

/-- The indented form of a document. -/
def pretty (j : Json) : String :=
  String.ofList (prettyChars 0 j)

end OffChain.Json
