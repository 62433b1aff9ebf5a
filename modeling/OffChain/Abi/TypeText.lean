import OffChain.Text.Decimal

/-!
# Texts of parameter types

The grammar of the texts by which an interface description names types:

* a type is a stem and any number of array suffixes, each a pair of brackets that may enclose a
  nonzero number of 64 bits;
* a stem is an identifier, possibly followed by a point and possibly another identifier, or a tuple;
* a tuple is written in parentheses, possibly behind the word `tuple`: types separated by commas,
  possibly with a comma behind the last one.  Blanks (space or tab) may stand behind the opening
  parenthesis, behind a comma and before the closing parenthesis.

A type may stand inside at most 79 pairs of parentheses.
-/

namespace OffChain.Abi

/-! ### Identifiers -/

/-- A character that an identifier may begin with. -/
def isIdentStart (c : Char) : Bool :=
  c.isAlpha || c == '$' || c == '_'

/-- A character that an identifier may go on with. -/
def isIdentRest (c : Char) : Bool :=
  c.isAlphanum || c == '$' || c == '_'

/-- Whether a text is an identifier. -/
def isIdentifier (s : String) : Bool :=
  match s.toList with
  | [] => false
  | c :: cs => isIdentStart c && cs.all isIdentRest

/-- Whether a text may name a function, a parameter or an event: an identifier, or nothing. -/
def isName (s : String) : Bool :=
  s.isEmpty || isIdentifier s

namespace TypeText

/-! ### Parts of a type

Each reader takes its part off the beginning of a text and returns what follows. -/

/-- An identifier. -/
def ident? : List Char → Option (List Char)
  | c :: cs => if isIdentStart c then some (cs.dropWhile isIdentRest) else none
  | [] => none

/-- An identifier, possibly followed by a point and possibly another identifier. -/
def root? (cs : List Char) : Option (List Char) := do
  match ← ident? cs with
  | '.' :: rest => some ((ident? rest).getD rest)
  | rest => some rest

/-- Blanks inside a tuple. -/
def skipBlanks (cs : List Char) : List Char :=
  cs.dropWhile fun c => c == ' ' || c == '\t'

/-- Whether digits, if there are any, write a number that is not zero and has at most 64 bits. -/
def isSize (digits : List Char) : Bool :=
  let n := Decimal.value digits
  digits.isEmpty || (0 < n && n < UInt64.size)

/-- Any number of array suffixes, reading at most `fuel` of them. -/
def suffixes? : Nat → List Char → Option (List Char)
  | fuel + 1, '[' :: rest =>
    match rest.dropWhile Char.isDigit with
    | ']' :: rest' => if isSize (rest.takeWhile Char.isDigit) then suffixes? fuel rest' else none
    | _ => none
  | _, cs => some cs

/-- The types of a tuple and its closing parenthesis, where `type?` reads one type; at most `fuel`
of them. -/
def elements? (type? : List Char → Option (List Char)) : Nat → List Char → Option (List Char)
  | 0, _ => none
  | fuel + 1, cs => do
    match ← type? cs with
    | ',' :: rest =>
      match skipBlanks rest with
      | ')' :: rest => some rest
      | rest => elements? type? fuel rest
    | rest =>
      match skipBlanks rest with
      | ')' :: rest => some rest
      | _ => none

/-- A tuple behind its opening parenthesis. -/
def tuple? (type? : List Char → Option (List Char)) (cs : List Char) : Option (List Char) :=
  match skipBlanks cs with
  | ')' :: rest => some rest
  | rest => elements? type? cs.length rest

/-- A stem, where `type?` reads a type inside a tuple. -/
def stem? (type? : List Char → Option (List Char)) : List Char → Option (List Char)
  | '(' :: rest => tuple? type? rest
  | 't' :: 'u' :: 'p' :: 'l' :: 'e' :: '(' :: rest => tuple? type? rest
  | cs => root? cs

/-- A type in which tuples go at most `depth` deep. -/
def type? : Nat → List Char → Option (List Char)
  | 0, cs => do suffixes? cs.length (← stem? (fun _ => none) cs)
  | depth + 1, cs => do suffixes? cs.length (← stem? (type? depth) cs)

/-- The greatest number of parentheses that a type may stand in. -/
def maxDepth : Nat := 79

end TypeText

/-- Whether a text names a type. -/
def isTypeText (s : String) : Bool :=
  TypeText.type? TypeText.maxDepth s.toList == some []

end OffChain.Abi
