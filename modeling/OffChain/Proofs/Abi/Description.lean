import OffChain.Abi.Interface
import OffChain.Proofs.Abi.TypeText
import OffChain.Proofs.Json.Objects

/-!
# Descriptions of interfaces

What an interface description says, and which documents say it.

The types of parameters are trees: a type is named by a text, or it is a tuple of types, and array
suffixes may stand behind it (`TypeTree`).  A document writes a tuple as the word `tuple` with its
components in a member of their own (`TypeTree.Writes`), whereas in a signature the components take
the place of the word (`TypeTree.canonical`).  Of what else a document may hold, a type knows
nothing: names of parameters, notes for compilers, members that no reader asks for, and the order of
all of these.

* `Declaration`, `Declaration.Writes`: what an item declares, and its documents.
* `Description`, `Description.Writes`: the same for a whole interface.
* `Description.callables`: its functions, each with its signature.
-/

namespace OffChain.Abi

/-! ### Types -/

/-- A text that names a type. -/
structure TypeName where
  /-- The text. -/
  text : String
  /-- It names a type. -/
  isTypeText : isTypeText text = true

/-- A name of a function, a parameter or an event. -/
structure Name where
  /-- The text. -/
  text : String
  /-- It is one that may name something. -/
  isName : isName text = true

/-- The type of a parameter. -/
inductive TypeTree where
  /-- A type that is named by a text, or arrays of it. -/
  | plain (name : TypeName) (arrays : List ArraySuffix)
  /-- A tuple of at least one type, or arrays of it. -/
  | tuple (first : TypeTree) (rest : List TypeTree) (arrays : List ArraySuffix)

namespace TypeTree

mutual

/-- The type as signatures have it. -/
def canonical : TypeTree → String
  | plain name arrays => name.text ++ ArraySuffix.textOf arrays
  | tuple first rest arrays =>
    "(" ++ ",".intercalate (canonical first :: canonicals rest) ++ ")"
      ++ ArraySuffix.textOf arrays

/-- Some types as signatures have them. -/
def canonicals : List TypeTree → List String
  | [] => []
  | t :: ts => canonical t :: canonicals ts

end

end TypeTree

/-- What a document says of a parameter besides its type. -/
structure Notes (inEvent : Bool) where
  /-- Its name. -/
  name : Option Name
  /-- Its type in the language of the contract. -/
  internalType : Option (Option String)
  /-- Whether it is indexed. -/
  indexed : Option (Option Bool)
  /-- That is said of the parameters of events only. -/
  inEvent_of_indexed : ∀ b, indexed = some (some b) → inEvent = true

namespace Notes

/-- Nothing is said. -/
def none (inEvent : Bool) : Notes inEvent :=
  ⟨.none, .none, .none, fun _ h => absurd h.symm (Option.some_ne_none _)⟩

/-- The fields of the document of a parameter. -/
def fields {inEvent : Bool} (notes : Notes inEvent) (type : String) (components : Option Json) :
    List (String × Option Json) :=
  [("name", notes.name.map fun name => .ofString name.text),
    ("type", some (.ofString type)),
    ("indexed", notes.indexed.map (Json.orNull .bool)),
    ("internalType", notes.internalType.map (Json.orNull .ofString)),
    ("components", components)]

end Notes

namespace TypeTree

open Json in
mutual

/-- A document of a parameter that has the type; `isExtra` tells what may stand in members that no
one asks for. -/
inductive Writes (isExtra : Json → Bool) : Bool → TypeTree → Json → Prop
  | plain {inEvent : Bool} {name : TypeName} {arrays : List ArraySuffix} {j : Json}
      (notes : Notes inEvent)
      (h : IsRecordOf isExtra (notes.fields (name.text ++ ArraySuffix.textOf arrays) none) j) :
      Writes isExtra inEvent (.plain name arrays) j
  | tuple {inEvent : Bool} {first : TypeTree} {rest : List TypeTree} {arrays : List ArraySuffix}
      {items : List Json} {j : Json} (notes : Notes inEvent)
      (hitems : WritesAll isExtra false (first :: rest) items)
      (h : IsRecordOf isExtra
        (notes.fields ("tuple" ++ ArraySuffix.textOf arrays) (some (.array items))) j) :
      Writes isExtra inEvent (.tuple first rest arrays) j

/-- Documents of parameters that have the types. -/
inductive WritesAll (isExtra : Json → Bool) : Bool → List TypeTree → List Json → Prop
  | nil {inEvent : Bool} : WritesAll isExtra inEvent [] []
  | cons {inEvent : Bool} {t : TypeTree} {ts : List TypeTree} {j : Json} {items : List Json}
      (h : Writes isExtra inEvent t j) (hitems : WritesAll isExtra inEvent ts items) :
      WritesAll isExtra inEvent (t :: ts) (j :: items)

end

mutual

/-- The document that says no more than the type. -/
def document : TypeTree → Json
  | plain name arrays =>
    .record (Json.Members.ofFields
      ((Notes.none false).fields (name.text ++ ArraySuffix.textOf arrays) none))
  | tuple first rest arrays =>
    .record (Json.Members.ofFields ((Notes.none false).fields ("tuple" ++ ArraySuffix.textOf arrays)
      (some (.array (document first :: documents rest)))))

/-- The documents of some types. -/
def documents : List TypeTree → List Json
  | [] => []
  | t :: ts => document t :: documents ts

end

variable (isExtra : Json → Bool)

mutual

theorem writes_document (inEvent : Bool) : ∀ t : TypeTree, t.Writes isExtra inEvent t.document
  | plain _ _ => .plain (Notes.none inEvent) (Json.IsRecordOf.of_fields isExtra _)
  | tuple first rest _ =>
    .tuple (Notes.none inEvent)
      (.cons (writes_document false first) (writesAll_documents false rest))
      (Json.IsRecordOf.of_fields isExtra _)

theorem writesAll_documents (inEvent : Bool) : ∀ ts : List TypeTree,
    WritesAll isExtra inEvent ts (documents ts)
  | [] => .nil
  | t :: ts => .cons (writes_document inEvent t) (writesAll_documents inEvent ts)

end

end TypeTree

/-! ### Items -/

/-- What a document says about how an item deals with the state of the chain. -/
structure StateClause where
  /-- By one of four words. -/
  mutability : Option (Option String)
  /-- Whether it takes payments. -/
  payable : Option (Option Bool)
  /-- Whether it changes nothing. -/
  constant : Option (Option Bool)
  /-- There are just those four words. -/
  mem_mutabilities : ∀ s, mutability = some (some s) → s ∈ Item.mutabilities
  /-- Without a word the other two do not both hold. -/
  not_both : mutability.join = .none →
    ¬(payable = some (some true) ∧ constant = some (some true))

namespace StateClause

/-- Nothing is said. -/
def none : StateClause where
  mutability := .none
  payable := .none
  constant := .none
  mem_mutabilities := fun _ h => absurd h.symm (Option.some_ne_none _)
  not_both := fun _ h => absurd h.1.symm (Option.some_ne_none _)

/-- The fields. -/
def fields (state : StateClause) : List (String × Option Json) :=
  [("stateMutability", state.mutability.map (Json.orNull .ofString)),
    ("payable", state.payable.map (Json.orNull .bool)),
    ("constant", state.constant.map (Json.orNull .bool))]

end StateClause

/-- What an item declares. -/
inductive Declaration where
  | function (name : Name) (inputs outputs : List TypeTree)
  | constructor (inputs : List TypeTree)
  | fallback
  | receive
  | event (name : Name) (inputs : List TypeTree) (isAnonymous : Bool)
  | error (name : Name) (inputs : List TypeTree)

namespace Declaration

/-- The name of a function and the types that it takes. -/
def signature (name : Name) (inputs : List TypeTree) : String :=
  name.text ++ "(" ++ ",".intercalate (TypeTree.canonicals inputs) ++ ")"

/-- The function, if one is declared. -/
def callable? : Declaration → Option Callable
  | function name inputs _ => some ⟨name.text, signature name inputs⟩
  | _ => none

/-- Whether the constructor is declared. -/
def isConstructor : Declaration → Bool
  | constructor _ => true
  | _ => false

/-- Whether the fallback is declared. -/
def isFallback : Declaration → Bool
  | fallback => true
  | _ => false

/-- Whether the receiver of plain payments is declared. -/
def isReceive : Declaration → Bool
  | receive => true
  | _ => false

/-- Whether an event is declared. -/
def isEvent : Declaration → Bool
  | event _ _ _ => true
  | _ => false

/-- What is taken. -/
def inputs : Declaration → List TypeTree
  | function _ inputs _ => inputs
  | constructor inputs => inputs
  | event _ inputs _ => inputs
  | error _ inputs => inputs
  | fallback => []
  | receive => []

/-- What is returned. -/
def outputs : Declaration → List TypeTree
  | function _ _ outputs => outputs
  | _ => []

/-- The fields of the document of an item, where parameters have the given documents. -/
def fields (state : StateClause) (ins outs : List Json) :
    Declaration → List (String × Option Json)
  | function name _ _ =>
    ("type", some (.ofString "function")) :: ("name", some (.ofString name.text))
      :: ("inputs", some (.array ins)) :: ("outputs", some (.array outs)) :: state.fields
  | constructor _ =>
    ("type", some (.ofString "constructor")) :: ("inputs", some (.array ins)) :: state.fields
  | fallback => ("type", some (.ofString "fallback")) :: state.fields
  | receive => ("type", some (.ofString "receive")) :: state.fields
  | event name _ isAnonymous =>
    [("type", some (.ofString "event")), ("name", some (.ofString name.text)),
      ("inputs", some (.array ins)), ("anonymous", some (.bool isAnonymous))]
  | error name _ =>
    [("type", some (.ofString "error")), ("name", some (.ofString name.text)),
      ("inputs", some (.array ins))]

open TypeTree in
/-- A document of an item. -/
def Writes (isExtra : Json → Bool) (d : Declaration) (j : Json) : Prop :=
  ∃ (state : StateClause) (ins outs : List Json), WritesAll isExtra d.isEvent d.inputs ins ∧
    WritesAll isExtra false d.outputs outs ∧ Json.IsRecordOf isExtra (d.fields state ins outs) j

/-- The document that says no more than the item. -/
def document (d : Declaration) : Json :=
  .record (Json.Members.ofFields
    (d.fields .none (TypeTree.documents d.inputs) (TypeTree.documents d.outputs)))

open TypeTree in
theorem writes_document (isExtra : Json → Bool) (d : Declaration) : d.Writes isExtra d.document :=
  ⟨.none, _, _, writesAll_documents isExtra d.isEvent d.inputs,
    writesAll_documents isExtra false d.outputs, Json.IsRecordOf.of_fields isExtra _⟩

end Declaration

/-! ### Descriptions -/

/-- What an interface description declares, item by item. -/
structure Description where
  /-- The items. -/
  declarations : List Declaration
  /-- There is at most one constructor. -/
  constructors : declarations.countP Declaration.isConstructor ≤ 1
  /-- There is at most one fallback. -/
  fallbacks : declarations.countP Declaration.isFallback ≤ 1
  /-- There is at most one receiver of plain payments. -/
  receives : declarations.countP Declaration.isReceive ≤ 1

namespace Description

/-- The functions, in the order of their declaration. -/
def callables (d : Description) : List Callable :=
  d.declarations.filterMap Declaration.callable?

/-- A document of the description. -/
def Writes (isExtra : Json → Bool) (d : Description) (j : Json) : Prop :=
  ∃ items, j = .array items ∧ List.Forall₂ (Declaration.Writes isExtra) d.declarations items

/-- The document that says no more than the items. -/
def document (d : Description) : Json :=
  .array (d.declarations.map Declaration.document)

theorem writes_document (isExtra : Json → Bool) (d : Description) :
    d.Writes isExtra d.document := by
  refine ⟨_, rfl, ?_⟩
  rw [List.forall₂_map_right_iff, List.forall₂_same]
  exact fun declaration _ => declaration.writes_document isExtra

end Description

end OffChain.Abi
