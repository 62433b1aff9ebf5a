import OffChain.Abi.Item
import OffChain.Bytes.Fixed
import OffChain.Json.Parser
import OffChain.Json.Range
import OffChain.Keccak
import OffChain.Text.Blank

/-!
# Interfaces as selector tables

A call names the function it calls by a selector, the first four bytes of the hash of the function's
signature.  An interface maps selectors to functions.  Functions enter it in the order of their
names, those of one name in the order of the description; of two functions with one selector the
later one stays.
-/

namespace OffChain.Abi

/-- The selector of a signature. -/
def selectorOf (signature : String) : Selector :=
  ⟨(Keccak.hashText signature).take 4, by simp⟩

/-- A function as an interface knows it. -/
structure Callable where
  /-- Its name. -/
  name : String
  /-- Its name and the canonical types of what it takes. -/
  signature : String
deriving DecidableEq, Repr

namespace Function

/-- The function as an interface knows it. -/
def descriptor (f : Function) : Callable :=
  ⟨f.name, f.signature⟩

/-- Its selector. -/
def selector (f : Function) : Selector :=
  selectorOf f.signature

end Function

/-- The callable functions of a contract by their selectors, no selector occurring twice. -/
structure Interface where
  /-- Selectors and functions. -/
  entries : List (Selector × Callable)
deriving DecidableEq

namespace Interface

/-- The interface without functions. -/
def empty : Interface :=
  ⟨[]⟩

/-- Puts a function under a selector, in the place of one that is there. -/
def insert (t : Interface) (s : Selector) (d : Callable) : Interface :=
  if t.entries.any fun e => e.1 == s then
    ⟨t.entries.map fun e => if e.1 == s then (s, d) else e⟩
  else ⟨t.entries ++ [(s, d)]⟩

/-- The function under a selector. -/
def get? (t : Interface) (s : Selector) : Option Callable :=
  (t.entries.find? fun e => e.1 == s).map fun e => e.2

/-- The function that call data names by its first four bytes. -/
def lookup? (t : Interface) (input : Bytes) : Option Callable :=
  (Selector.ofInput? input).bind t.get?

/-- The number of functions. -/
def size (t : Interface) : Nat :=
  t.entries.length

/-- Whether there is no function. -/
def isEmpty (t : Interface) : Bool :=
  t.entries.isEmpty

/-! ### From descriptions -/

/-- Functions in the order of their names, those of one name in the given order. -/
def inNameOrder (fs : List Function) : List Function :=
  fs.mergeSort fun f g => decide (f.name ≤ g.name)

/-- The interface of some functions. -/
def ofFunctions (fs : List Function) : Interface :=
  (inNameOrder fs).foldl (fun t f => t.insert f.selector f.descriptor) empty

/-- Whether there is at most one each of constructor, fallback and receive. -/
def isUnambiguous (items : List Item) : Bool :=
  items.countP Item.isConstructor ≤ 1 && items.countP Item.isFallback ≤ 1
    && items.countP Item.isReceive ≤ 1

/-- The interface of the items of a description. -/
def ofItems? (items : List Item) : Option Interface :=
  if isUnambiguous items then some (ofFunctions (items.filterMap Item.function?)) else none

/-- Reads a description. -/
def ofJson? (j : Json) : Option Interface :=
  if j.isHoldable then do
    let items ← j.toItems?
    let items ← items.mapM Item.ofJson?
    ofItems? items
  else none

/-- Why a description cannot be used. -/
inductive ParseError where
  /-- It is blank. -/
  | blank
  /-- It is not the description of an interface. -/
  | malformed
deriving DecidableEq, Repr

/-- Reads the text of a description. -/
def parse (s : String) : Except ParseError Interface :=
  if Text.isAllBlank s then .error .blank
  else
    match (Json.parse? s).bind ofJson? with
    | some t => .ok t
    | none => .error .malformed

end Interface

end OffChain.Abi
