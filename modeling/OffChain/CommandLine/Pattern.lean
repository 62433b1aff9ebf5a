import OffChain.Bytes.Hex
import OffChain.Text.Alphanumeric
import OffChain.Text.Blank

/-!
# Values in a filter

The value that a directive asks of a field is a truth value, a number or a pattern.  A pattern is a
regular expression: characters and escapes, sets of characters in brackets, groups in parentheses,
alternatives, repetition and anchors.  Flags in a group switch the dialect: `i` ignores case, `u`
(which is set) counts characters and not bytes, `x` passes over blanks and comments.

The tables of characters that some patterns need are not there: no pattern ignores case or names a
class of characters by a property, as `\d` and `\b` do, as long as it counts characters.  One that
counts bytes must not match half a character.  A value contains no closing brace, so no brace of a
pattern is closed.
-/

namespace OffChain.CommandLine.Pattern

/-! ### Numbers -/

/-- A character with its capital taken for the small letter. -/
def lowered (cs : List Char) : String :=
  String.ofList (cs.map Char.toLower)

/-- Whether a text is the exponent of a number, or empty. -/
def isExponent : List Char → Bool
  | [] => true
  | c :: cs =>
    let digits :=
      match cs with
      | '+' :: ds => ds
      | '-' :: ds => ds
      | ds => ds
    (c == 'e' || c == 'E') && !digits.isEmpty && digits.all Char.isDigit

/-- Whether a text without a sign is a number, perhaps with a point and an exponent. -/
def isUnsigned (cs : List Char) : Bool :=
  let whole := cs.takeWhile Char.isDigit
  match cs.drop whole.length with
  | '.' :: rest =>
    let fraction := rest.takeWhile Char.isDigit
    (!whole.isEmpty || !fraction.isEmpty) && isExponent (rest.drop fraction.length)
  | rest => !whole.isEmpty && isExponent rest

/-- Whether a text is a number. -/
def isNumber (cs : List Char) : Bool :=
  let body :=
    match cs with
    | '+' :: rest => rest
    | '-' :: rest => rest
    | rest => rest
  ["inf", "infinity", "nan"].contains (lowered body) || isUnsigned body

/-! ### Dialects -/

/-- The flags that decide what a pattern means. -/
structure Mode where
  /-- Case is ignored. -/
  caseless : Bool
  /-- Characters are counted, not bytes. -/
  unicode : Bool
  /-- Blanks and comments are passed over. -/
  verbose : Bool
deriving DecidableEq, Repr

namespace Mode

/-- The dialect of a pattern that sets no flags. -/
def standard : Mode :=
  ⟨false, true, false⟩

/-- The dialect after a flag was set or cleared. -/
def set (mode : Mode) (flag : Char) (value : Bool) : Mode :=
  match flag with
  | 'i' => { mode with caseless := value }
  | 'u' => { mode with unicode := value }
  | 'x' => { mode with verbose := value }
  | _ => mode

/-- Whether a character can stand for itself, which needs tables if case is ignored. -/
def allowsLiteral (mode : Mode) : Bool :=
  !(mode.caseless && mode.unicode)

end Mode

/-- A text without its first comment line, if the text is inside of a comment. -/
def skipFrom (inComment : Bool) : List Char → List Char
  | [] => []
  | c :: cs =>
    if inComment then skipFrom (c != '\n') cs
    else if Text.isBlank c then skipFrom false cs
    else if c = '#' then skipFrom true cs
    else c :: cs

/-- What follows the blanks and comments that are passed over. -/
def skip (mode : Mode) (cs : List Char) : List Char :=
  if mode.verbose then skipFrom false cs else cs

/-! ### Escapes -/

/-- What a character or an escape stands for. -/
inductive Atom where
  /-- A character; `isByte` if it is written as a byte. -/
  | literal (code : Nat) (isByte : Bool)
  /-- A class of characters, or all others. -/
  | property (negated : Bool)
  /-- The beginning or the end of the text. -/
  | anchor
  /-- The beginning or the end of a word. -/
  | boundary
deriving DecidableEq, Repr

/-- Whether a letter behind a backslash is an abbreviation of a control character. -/
def isControlLetter (c : Char) : Bool :=
  ['a', 'f', 't', 'n', 'r', 'v'].contains c

/-- Whether a backslash takes the meaning from a character. -/
def isEscapable (c : Char) : Bool :=
  c.toNat < 128 && !c.isAlphanum && c != '<' && c != '>'

/-- A number of some hexadecimal digits, and what follows. -/
def hex? (mode : Mode) : Nat → Nat → List Char → Option (Nat × List Char)
  | 0, n, cs => some (n, cs)
  | digits + 1, n, cs =>
    match skip mode cs with
    | [] => none
    | c :: rest => (Hex.value? c).bind fun d => hex? mode digits (16 * n + d) rest

/-- The character of a number that is written in hexadecimal digits. -/
def hexLiteral? (mode : Mode) (digits : Nat) (cs : List Char) : Option (Atom × List Char) :=
  (hex? mode digits 0 cs).bind fun (n, rest) =>
    if n < 0xD800 || (0xE000 ≤ n && n < 0x110000) then
      some (.literal n (digits == 2), skip mode rest)
    else none

/-- What an escape stands for, and what follows it. -/
def escape? (mode : Mode) : List Char → Option (Atom × List Char)
  | [] => none
  | c :: rest =>
    if c = 'x' then hexLiteral? mode 2 rest
    else if c = 'u' then hexLiteral? mode 4 rest
    else if c = 'U' then hexLiteral? mode 8 rest
    else if c = 'd' || c = 's' || c = 'w' then some (.property false, rest)
    else if c = 'D' || c = 'S' || c = 'W' then some (.property true, rest)
    else if c = 'A' || c = 'z' then some (.anchor, rest)
    else if c = 'b' || c = 'B' || c = '<' || c = '>' then some (.boundary, rest)
    else if isControlLetter c || isEscapable c then some (.literal c.toNat false, rest)
    else none

namespace Atom

/-- Whether it can stand in a pattern. -/
def isAllowed (mode : Mode) : Atom → Bool
  | literal code isByte => mode.allowsLiteral && (mode.unicode || !isByte || code < 128)
  | property negated => !mode.unicode && !negated
  | anchor => true
  | boundary => !mode.unicode

/-- Whether it can stand in a set of characters. -/
def isAllowedInSet (mode : Mode) : Atom → Bool
  | literal code _ => mode.allowsLiteral && (mode.unicode || code < 128)
  | property negated => !mode.unicode && !negated
  | _ => false

end Atom

/-! ### Sets of characters -/

/-- The names of the sets of characters that are written between colons. -/
def setNames : List String :=
  ["alnum", "alpha", "ascii", "blank", "cntrl", "digit", "graph", "lower", "print", "punct",
    "space", "upper", "word", "xdigit"]

/-- A named set behind its opening bracket: whether it is negated, and what follows. -/
def namedSet? : List Char → Option (Bool × List Char)
  | ':' :: cs =>
    let (negated, cs) :=
      match cs with
      | '^' :: rest => (true, rest)
      | rest => (false, rest)
    let name := cs.takeWhile fun c => c != ':'
    match cs.drop name.length with
    | ':' :: ']' :: rest =>
      if setNames.contains (String.ofList name) then some (negated, rest) else none
    | _ => none
  | _ => none

/-- What follows minus signs, which are characters at the beginning of a set; whether there was
one. -/
def afterMinuses (mode : Mode) : Nat → List Char → Bool × List Char
  | fuel + 1, '-' :: cs => (true, (afterMinuses mode fuel (skip mode cs)).2)
  | _, cs => (false, cs)

/-- What follows the beginning of a set; `none` if the set cannot go on. -/
def openSet? (mode : Mode) (cs : List Char) : Option (List Char) :=
  let inner (cs : List Char) : Option (List Char) :=
    match afterMinuses mode cs.length cs with
    | (false, ']' :: rest) =>
      let rest := skip mode rest
      if rest.isEmpty then none else some rest
    | (_, []) => none
    | (_, rest) => some rest
  match skip mode cs with
  | '^' :: rest => if mode.unicode then inner (skip mode rest) else none
  | rest => inner rest

/-- A character or an escape in a set, and what follows. -/
def setAtom? (mode : Mode) : List Char → Option (Atom × List Char)
  | [] => none
  | '\\' :: rest => (escape? mode rest).filter fun r => r.1.isAllowedInSet mode
  | c :: rest =>
    if (Atom.literal c.toNat false).isAllowedInSet mode then some (.literal c.toNat false, rest)
    else none

/-- Whether two ends make a range. -/
def isRange : Atom → Atom → Bool
  | .literal a _, .literal b _ => a ≤ b
  | _, _ => false

/-- What follows a character or a range in a set. -/
def afterRange? (mode : Mode) (cs : List Char) : Option (List Char) := do
  let (first, rest) ← setAtom? mode cs
  match skip mode rest with
  | '-' :: rest =>
    match skip mode rest with
    | [] => none
    | ']' :: _ => some ('-' :: rest)
    | '-' :: _ => some ('-' :: rest)
    | rest => do
      let (last, rest) ← setAtom? mode rest
      if isRange first last then some rest else none
  | rest => some rest

/-- What follows a set, `depth` more sets being open around it. -/
def afterSet? (mode : Mode) : Nat → Nat → List Char → Option (List Char)
  | 0, _, _ => none
  | fuel + 1, depth, cs =>
    match skip mode cs with
    | [] => none
    | '[' :: rest =>
      match namedSet? rest with
      | some (negated, rest) =>
        if mode.allowsLiteral && (mode.unicode || !negated) then afterSet? mode fuel depth rest
        else none
      | none => (openSet? mode rest).bind (afterSet? mode fuel (depth + 1))
    | ']' :: rest => if depth = 0 then some rest else afterSet? mode fuel (depth - 1) rest
    | '&' :: '&' :: rest => afterSet? mode fuel depth rest
    | '-' :: '-' :: rest => afterSet? mode fuel depth rest
    | '~' :: '~' :: rest => afterSet? mode fuel depth rest
    | rest => (afterRange? mode rest).bind (afterSet? mode fuel depth)

/-! ### Groups -/

/-- Whether a character can stand in the name of a group. -/
def isNameChar (c : Char) : Bool :=
  Text.isAlphanumeric c || ['_', '.', '[', ']'].contains c

/-- Whether a text can be the name of a group. -/
def isName : List Char → Bool
  | [] => false
  | c :: cs => (c == '_' || Text.isAlphabetic c) && cs.all isNameChar

/-- The flags that there are. -/
def flags : List Char :=
  ['i', 'm', 's', 'U', 'u', 'R', 'x']

/-- Reads flags up to the character that ends them, which is given with what follows it; `seen` are
the flags so far, and `value` is what a flag is set to. -/
def flags? (seen : List Char) (value : Bool) (mode : Mode) :
    List Char → Option (Mode × Char × List Char)
  | [] => none
  | c :: cs =>
    if c = ':' || c = ')' then
      if seen.head? = some '-' then none else some (mode, c, cs)
    else if seen.contains c then none
    else if c = '-' then flags? ('-' :: seen) false mode cs
    else if flags.contains c then flags? (c :: seen) value (mode.set c value) cs
    else none

/-- What stands at the beginning of a group. -/
inductive Opening where
  /-- A group, perhaps of a name, in a dialect of its own. -/
  | group (name : Option (List Char)) (mode : Mode) (rest : List Char)
  /-- Flags alone, for what follows. -/
  | flags (mode : Mode) (rest : List Char)

/-- Reads the name of a group. -/
def named? (mode : Mode) (cs : List Char) : Option Opening :=
  let name := cs.takeWhile fun c => c != '>'
  match cs.drop name.length with
  | _ :: rest => if isName name then some (.group (some name) mode rest) else none
  | [] => none

/-- Reads the beginning of a group behind its parenthesis. -/
def opening? (mode : Mode) (cs : List Char) : Option Opening :=
  match skip mode cs with
  | '?' :: '=' :: _ => none
  | '?' :: '!' :: _ => none
  | '?' :: '<' :: '=' :: _ => none
  | '?' :: '<' :: '!' :: _ => none
  | '?' :: 'P' :: '<' :: rest => named? mode rest
  | '?' :: '<' :: rest => named? mode rest
  | '?' :: ')' :: _ => none
  | '?' :: rest =>
    (flags? [] true mode rest).map fun (inner, last, rest) =>
      if last = ')' then .flags inner rest else .group none inner rest
  | rest => some (.group none mode rest)

/-! ### Patterns -/

/-- How far the reading of a pattern has come. -/
structure Progress where
  /-- The dialect. -/
  mode : Mode
  /-- The dialects around the groups that are open, innermost first. -/
  outer : List Mode
  /-- The names of groups so far. -/
  names : List (List Char)
  /-- Whether there is something to be repeated. -/
  canRepeat : Bool

namespace Progress

/-- The beginning of a pattern. -/
def start : Progress :=
  ⟨.standard, [], [], false⟩

/-- After something that can be repeated. -/
def advanced (p : Progress) : Progress :=
  { p with canRepeat := true }

/-- Before something else. -/
def renewed (p : Progress) : Progress :=
  { p with canRepeat := false }

/-- Inside of a group. -/
def entered (p : Progress) (name : Option (List Char)) (inner : Mode) : Progress :=
  ⟨inner, p.mode :: p.outer, name.toList ++ p.names, false⟩

/-- Whether the rest of a pattern is well formed. -/
def accepts : Nat → Progress → List Char → Bool
  | 0, _, _ => false
  | fuel + 1, p, cs =>
    match skip p.mode cs with
    | [] => p.outer.isEmpty
    | '(' :: rest =>
      match opening? p.mode rest with
      | none => false
      | some (.flags inner rest) => accepts fuel ({ p with mode := inner }).renewed rest
      | some (.group name inner rest) =>
        !name.any p.names.contains && accepts fuel (p.entered name inner) rest
    | ')' :: rest =>
      match p.outer with
      | [] => false
      | mode :: outer => accepts fuel ({ p with mode := mode, outer := outer }).advanced rest
    | '|' :: rest => accepts fuel p.renewed rest
    | '[' :: rest =>
      match (openSet? p.mode rest).bind (afterSet? p.mode (rest.length + 1) 0) with
      | none => false
      | some rest => accepts fuel p.advanced rest
    | '\\' :: rest =>
      match escape? p.mode rest with
      | none => false
      | some (atom, rest) => atom.isAllowed p.mode && accepts fuel p.advanced rest
    | '\x7b' :: _ => false
    | '.' :: rest => p.mode.unicode && accepts fuel p.advanced rest
    | '^' :: rest => accepts fuel p.advanced rest
    | '$' :: rest => accepts fuel p.advanced rest
    | c :: rest =>
      if c = '*' || c = '+' || c = '?' then
        let rest :=
          match rest with
          | '?' :: more => more
          | more => more
        p.canRepeat && accepts fuel p rest
      else p.mode.allowsLiteral && accepts fuel p.advanced rest

end Progress

/-- Whether a text is a pattern. -/
def isPattern (cs : List Char) : Bool :=
  Progress.start.accepts (cs.length + 1) cs

/-- Whether a text is a value: a number or a pattern, and every truth value is one. -/
def isValue (cs : List Char) : Bool :=
  isNumber cs || isPattern cs

end OffChain.CommandLine.Pattern
