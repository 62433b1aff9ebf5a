import OffChain.Json.Basic

/-!
# Records in JSON documents

A record is an object with certain named fields, in any order, or an array of all of them in the
order of their declaration.  In an object other members are passed over, whatever they hold and
however often they occur, but they have to be whole, every name has to stand for a string, and a
declared name may occur only once.  A field that may be absent may be left out of an object or be
`null`.
-/

namespace OffChain.Json

/-- Members whose names are strings. -/
abbrev Members := List (String × Json)

/-- The members with their names as strings, if all of them are. -/
def named? (members : List (Option String × Json)) : Option Members :=
  members.mapM fun (k, v) => k.map fun k => (k, v)

namespace Members

/-- The value of the first member of a name. -/
def get? (ms : Members) (name : String) : Option Json :=
  (ms.find? fun m => m.1 == name).map fun m => m.2

/-- How often a name occurs. -/
def count (ms : Members) (name : String) : Nat :=
  ms.countP fun m => m.1 == name

/-- No name of the list occurs twice. -/
def noneTwice (ms : Members) (names : List String) : Bool :=
  names.all fun name => ms.count name ≤ 1

/-- Whether all members are whole, those of the given names apart. -/
def areOthersWhole (ms : Members) (names : List String) : Bool :=
  ms.all fun m => names.contains m.1 || m.2.isWhole

end Members

/-- The members of an object in which no name of the list occurs twice. -/
def members? (names : List String) : Json → Option Members
  | .object members =>
    (named? members).filter fun ms => ms.noneTwice names && ms.areOthersWhole names
  | _ => none

/-- The values of the declared fields, in the order of their declaration; `none` in the place of
one that is not there. -/
def fields? (names : List String) : Json → Option (List (Option Json))
  | .array items => if items.length = names.length then some (items.map some) else none
  | j => (members? names j).map fun ms => names.map ms.get?

/-- A field that has to be there. -/
def required {α : Type} (read : Json → Option α) (field : Option Json) : Option α :=
  field.bind read

/-- A field that may be left out or `null`. -/
def optional {α : Type} (read : Json → Option α) : Option Json → Option (Option α)
  | none => some none
  | some .null => some none
  | some j => (read j).map some

end OffChain.Json
