import OffChain.Abi.Param

/-!
# Items of an interface description

An interface description lists functions, events, errors and at most one each of constructor,
fallback and receive.  The member `type` says what an item is.  Items that are called also say how
they deal with the state of the chain: by `stateMutability`, or by the older pair of `payable` and
`constant`, which then must not both hold.  Documents give an item as an object; those that have no
such members can also be given as arrays.
-/

namespace OffChain.Abi

/-- A function of an interface. -/
structure Function where
  /-- Its name. -/
  name : String
  /-- What it takes. -/
  inputs : List Param
  /-- What it returns. -/
  outputs : List Param
deriving DecidableEq

namespace Function

/-- The name and the canonical types of what it takes. -/
def signature (f : Function) : String :=
  f.name ++ "(" ++ Param.canonicalList f.inputs ++ ")"

end Function

/-- An item of an interface description. -/
inductive Item where
  | function (f : Function)
  | constructor (inputs : List Param)
  | fallback
  | receive
  | event (name : String) (inputs : List Param) (isAnonymous : Bool)
  | error (name : String) (inputs : List Param)
deriving DecidableEq

namespace Item

/-- The function, if the item is one. -/
def function? : Item → Option Function
  | function f => some f
  | _ => none

/-- Whether the item is the constructor. -/
def isConstructor : Item → Bool
  | constructor _ => true
  | _ => false

/-- Whether the item is the fallback. -/
def isFallback : Item → Bool
  | fallback => true
  | _ => false

/-- Whether the item is the receiver of plain payments. -/
def isReceive : Item → Bool
  | receive => true
  | _ => false

/-! ### Reading -/

/-- The four ways to deal with the state of the chain. -/
def mutabilities : List String :=
  ["pure", "view", "nonpayable", "payable"]

/-- Whether a document names a way to deal with the state: by its name, or by the name of the only
member of an object that holds nothing. -/
def isMutability : Json → Bool
  | .text (some s) => mutabilities.contains s
  | .object [(some s, .null)] => mutabilities.contains s
  | .object [(some s, .object [])] => mutabilities.contains s
  | _ => false

/-- The names of the members that say how an item deals with the state. -/
def stateNames : List String :=
  ["stateMutability", "payable", "constant"]

/-- Whether the members say in a valid way how an item deals with the state. -/
def isStateValid (ms : Json.Members) : Bool :=
  ms.noneTwice stateNames
    && (match Json.optional Json.toBool? (ms.get? "payable"),
          Json.optional Json.toBool? (ms.get? "constant"), ms.get? "stateMutability" with
      | some payable, some constant, none => !(payable == some true && constant == some true)
      | some payable, some constant, some .null => !(payable == some true && constant == some true)
      | some _, some _, some j => isMutability j
      | _, _, _ => false)

/-- The name of a function. -/
def name? (ms : Json.Members) : Option String :=
  ((ms.get? "name").bind Json.toString?).filter isName

/-- The parameters under a name. -/
def params? (ms : Json.Members) (name : String) : Option (List Param) :=
  (ms.get? name).bind (Param.listOfJson? false)

/-- The event of the given fields. -/
def eventOf? (name inputs isAnonymous : Option Json) : Option Item := do
  let name ← (Json.required Json.toString? name).filter isName
  let inputs ← Json.required (Param.listOfJson? true) inputs
  let isAnonymous ← Json.required Json.toBool? isAnonymous
  some (event name inputs isAnonymous)

/-- The error of the given fields. -/
def errorOf? (name inputs : Option Json) : Option Item := do
  let name ← (Json.required Json.toString? name).filter isName
  let inputs ← Json.required (Param.listOfJson? false) inputs
  some (error name inputs)

/-- Reads an item of the given kind from its members. -/
def ofMembers? (ms : Json.Members) (kind : String) : Option Item :=
  if kind = "function" then
    if ms.noneTwice ["name", "inputs", "outputs"] && isStateValid ms then do
      let name ← name? ms
      let inputs ← params? ms "inputs"
      let outputs ← params? ms "outputs"
      some (function ⟨name, inputs, outputs⟩)
    else none
  else if kind = "constructor" then
    if ms.noneTwice ["inputs"] && isStateValid ms then do
      let inputs ← params? ms "inputs"
      some (constructor inputs)
    else none
  else if kind = "fallback" then if isStateValid ms then some fallback else none
  else if kind = "receive" then if isStateValid ms then some receive else none
  else if kind = "event" then
    if ms.noneTwice ["name", "inputs", "anonymous"] then
      eventOf? (ms.get? "name") (ms.get? "inputs") (ms.get? "anonymous")
    else none
  else if kind = "error" then
    if ms.noneTwice ["name", "inputs"] then errorOf? (ms.get? "name") (ms.get? "inputs") else none
  else none

/-- Reads an item: an object whose member `type` occurs once or, for an event and for an error, the
array of its kind and all its fields. -/
def ofJson? : Json → Option Item
  | .array [.text (some "event"), name, inputs, isAnonymous] =>
    eventOf? (some name) (some inputs) (some isAnonymous)
  | .array [.text (some "error"), name, inputs] => errorOf? (some name) (some inputs)
  | j => do
    let ms ← Json.members? ["type"] j
    let kind ← (ms.get? "type").bind Json.toString?
    ofMembers? ms kind

end Item

end OffChain.Abi
