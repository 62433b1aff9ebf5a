import OffChain.Text.Decimal

/-!
# JSON documents

The syntax tree of a document (RFC 8259).  An object keeps its members in the order of the text,
repeated names included: which of them count is decided by who reads the document.  A number keeps
its digits as written.  A text is `none` when one of its escapes names half of a surrogate pair
without the other half: it is well formed, but there is no string that it stands for.

A reader that is interested in the beginning of an array only can leave the rest of it unread; no
document holds an item that is unread.
-/

namespace OffChain

/-- A number as written: sign, digits, and the parts after the point and after the `e`. -/
structure NumberLit where
  /-- A minus sign precedes the number. -/
  negative : Bool
  /-- The digits before the point. -/
  whole : List Char
  /-- The digits after the point, if there is one. -/
  fraction : Option (List Char)
  /-- The part after the `e`, if there is one: whether a minus sign precedes it, and its digits. -/
  exponent : Option (Bool × List Char)
deriving DecidableEq

/-- A JSON document. -/
inductive Json where
  | null
  | bool (b : Bool)
  | number (lit : NumberLit)
  | text (s : Option String)
  | array (items : List Json)
  | object (members : List (Option String × Json))
  /-- The end of an array that was not read. -/
  | unread

namespace Json

/-! ### Building documents -/

/-- The document that is a text. -/
def ofString (s : String) : Json :=
  .text (some s)

/-- The document that is a natural number. -/
def ofNat (n : Nat) : Json :=
  .number ⟨false, Decimal.digits n, none, none⟩

/-- The object with the given members. -/
def record (members : List (String × Json)) : Json :=
  .object (members.map fun (k, v) => (some k, v))

/-- `null` for an absent value. -/
def orNull {α : Type} (f : α → Json) : Option α → Json
  | none => .null
  | some a => f a

/-! ### Measures -/

mutual

/-- The number of arrays and objects that enclose the innermost one, it included. -/
def depth : Json → Nat
  | .array items => depthItems items + 1
  | .object members => depthMembers members + 1
  | .null => 0
  | .bool _ => 0
  | .number _ => 0
  | .text _ => 0
  | .unread => 0

/-- The greatest depth of some items. -/
def depthItems : List Json → Nat
  | [] => 0
  | v :: vs => max (depth v) (depthItems vs)

/-- The greatest depth of some members. -/
def depthMembers : List (Option String × Json) → Nat
  | [] => 0
  | (_, v) :: ms => max (depth v) (depthMembers ms)

end

mutual

/-- Whether nothing in a document was left unread. -/
def isWhole : Json → Bool
  | .array items => areWholeItems items
  | .object members => areWholeMembers members
  | .unread => false
  | .null => true
  | .bool _ => true
  | .number _ => true
  | .text _ => true

/-- The same for some items. -/
def areWholeItems : List Json → Bool
  | [] => true
  | v :: vs => isWhole v && areWholeItems vs

/-- The same for some members. -/
def areWholeMembers : List (Option String × Json) → Bool
  | [] => true
  | (_, v) :: ms => isWhole v && areWholeMembers ms

end

/-! ### Scalars -/

/-- The natural number that a literal of digits alone writes. -/
def NumberLit.toNat? (lit : NumberLit) : Option Nat :=
  if lit.negative || lit.fraction.isSome || lit.exponent.isSome then none
  else some (Decimal.value lit.whole)

/-- A truth value. -/
def toBool? : Json → Option Bool
  | .bool b => some b
  | _ => none

/-- A text that stands for a string. -/
def toString? : Json → Option String
  | .text s => s
  | _ => none

/-- A natural number written by digits alone. -/
def toNat? : Json → Option Nat
  | .number lit => NumberLit.toNat? lit
  | _ => none

/-- A number of 64 bits, written by digits alone. -/
def toUInt64? (j : Json) : Option UInt64 :=
  j.toNat?.bind fun n => if n < UInt64.size then some (UInt64.ofNat n) else none

/-- A byte, written by digits alone. -/
def toByte? (j : Json) : Option UInt8 :=
  j.toNat?.bind fun n => if n < UInt8.size then some (UInt8.ofNat n) else none

/-- The items of an array. -/
def toItems? : Json → Option (List Json)
  | .array items => some items
  | _ => none

/-- Neither an array nor an object. -/
def isScalar : Json → Bool
  | .array _ => false
  | .object _ => false
  | _ => true

end Json

end OffChain
