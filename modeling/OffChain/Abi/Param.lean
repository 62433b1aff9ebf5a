import OffChain.Abi.TypeText
import OffChain.Json.Fields

/-!
# Parameters of an interface description

A parameter has the text of its type and, if that begins with `tuple`, may have components.  The
canonical text of its type, from which signatures are made, is the text as it stands, except that
components take the place of the word `tuple`: in parentheses, separated by commas.

Documents give a parameter as an object or as an array of its fields, of which trailing ones may be
left out.  Only the parameters of events carry the field `indexed`.
-/

namespace OffChain.Abi

/-- A parameter. -/
inductive Param where
  /-- The text of its type, and its components. -/
  | mk (type : String) (components : List Param)

namespace Param

/-- The text of its type. -/
def type : Param → String
  | mk type _ => type

/-- Its components. -/
def components : Param → List Param
  | mk _ components => components

/-! ### Equality -/

mutual

/-- Whether two parameters are the same. -/
def decEq : (p q : Param) → Decidable (p = q)
  | mk type components, mk type' components' =>
    if h : type = type' then
      match decEqAll components components' with
      | isTrue h' => isTrue (h ▸ h' ▸ rfl)
      | isFalse h' => isFalse fun e => h' (mk.inj e).2
    else isFalse fun e => h (mk.inj e).1

/-- Whether two lists of parameters are the same. -/
def decEqAll : (ps qs : List Param) → Decidable (ps = qs)
  | [], [] => isTrue rfl
  | [], _ :: _ => isFalse nofun
  | _ :: _, [] => isFalse nofun
  | p :: ps, q :: qs =>
    match decEq p q, decEqAll ps qs with
    | isTrue h, isTrue h' => isTrue (h ▸ h' ▸ rfl)
    | isFalse h, _ => isFalse fun e => h (List.cons.inj e).1
    | _, isFalse h' => isFalse fun e => h' (List.cons.inj e).2

end

instance : DecidableEq Param := decEq

/-! ### The canonical type -/

mutual

/-- The canonical text of its type. -/
def canonical : Param → String
  | mk type [] => type
  | mk type (p :: ps) =>
    "(" ++ canonical p ++ canonicalRest ps ++ ")" ++ String.ofList (type.toList.drop 5)

/-- The canonical types of further parameters, each behind a comma. -/
def canonicalRest : List Param → String
  | [] => ""
  | p :: ps => "," ++ canonical p ++ canonicalRest ps

end

/-- The canonical types of some parameters, separated by commas. -/
def canonicalList : List Param → String
  | [] => ""
  | p :: ps => canonical p ++ canonicalRest ps

/-! ### Reading -/

/-- The names of the fields of a parameter, in the order of the array form. -/
def fieldNames : List String :=
  ["name", "type", "indexed", "internalType", "components"]

/-- The fields of a parameter, in the order of their names. -/
def fields? : Json → Option (List (Option Json))
  | .array items =>
    if items.length ≤ fieldNames.length then
      some (items.map some ++ List.replicate (fieldNames.length - items.length) none)
    else none
  | j => j.fields? fieldNames

/-- Whether the field `indexed` is as it has to be: a truth value for the parameters of events,
absent otherwise. -/
def isIndexedValid (inEvent : Bool) : Option (Option Bool) → Bool
  | none => false
  | some none => true
  | some (some _) => inEvent

/-- A parameter of the given fields, if they fit together. -/
def ofFields? (inEvent : Bool) (name type indexed internalType : Option Json)
    (components : List Param) : Option Param := do
  let name ← (name.map Json.toString?).getD (some "")
  let type ← Json.required Json.toString? type
  let _ ← Json.optional Json.toString? internalType
  if isIndexedValid inEvent (Json.optional Json.toBool? indexed) && isName name
      && (if components.isEmpty then isTypeText type else type.toList.take 5 == "tuple".toList) then
    some (mk type components)
  else none

/-- Reads a parameter whose components go at most `depth` deep. -/
def ofJsonWithin? : Nat → Bool → Json → Option Param
  | 0, _, _ => none
  | depth + 1, inEvent, j => do
    match ← fields? j with
    | [name, type, indexed, internalType, components] => do
      let components ←
        match components with
        | none => some []
        | some (.array items) => items.mapM (ofJsonWithin? depth false)
        | some _ => none
      ofFields? inEvent name type indexed internalType components
    | _ => none

/-- Reads a parameter. -/
def ofJson? (inEvent : Bool) (j : Json) : Option Param :=
  ofJsonWithin? j.depth inEvent j

/-- Reads a list of parameters. -/
def listOfJson? (inEvent : Bool) (j : Json) : Option (List Param) :=
  j.toItems?.bind fun items => items.mapM (ofJson? inEvent)

end Param

end OffChain.Abi
