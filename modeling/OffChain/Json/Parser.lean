import OffChain.Json.Token

/-!
# Reading JSON documents

A document is read token by token.  The state of the reader is what has to follow, together with
the arrays and objects that are open, innermost first; a token that does not fit ends the reading.
The text is a document if its last token completes a value and nothing is open then.
-/

namespace OffChain.Json

/-- An array or object that is open, with its complete parts, last one first. -/
inductive Open where
  /-- An array, before the item that is being read. -/
  | array (items : List Json)
  /-- An object, before the member that is being read, whose name is known. -/
  | object (members : List (Option String × Json)) (name : Option String)

/-- What has to follow. -/
inductive State where
  /-- A value. -/
  | value (outer : List Open)
  /-- The first item of an array, or its end. -/
  | firstItem (outer : List Open)
  /-- The first name of an object, or its end. -/
  | firstName (outer : List Open)
  /-- A further name of an object. -/
  | name (members : List (Option String × Json)) (outer : List Open)
  /-- The colon behind a name. -/
  | colon (members : List (Option String × Json)) (name : Option String) (outer : List Open)
  /-- A comma or an end, `v` being complete. -/
  | after (v : Json) (outer : List Open)

namespace State

/-- Begins a value, and completes it if it is a scalar. -/
def begin? (outer : List Open) : Token → Option State
  | .null => some (.after .null outer)
  | .bool b => some (.after (.bool b) outer)
  | .number lit => some (.after (.number lit) outer)
  | .text s => some (.after (.text s) outer)
  | .openBracket => some (.firstItem outer)
  | .openBrace => some (.firstName outer)
  | _ => none

/-- Takes in a token. -/
def step? : State → Token → Option State
  | .value outer, t => begin? outer t
  | .firstItem outer, .closeBracket => some (.after (.array []) outer)
  | .firstItem outer, t => begin? (.array [] :: outer) t
  | .firstName outer, .closeBrace => some (.after (.object []) outer)
  | .firstName outer, .text k => some (.colon [] k outer)
  | .name members outer, .text k => some (.colon members k outer)
  | .colon members k outer, .colon => some (.value (.object members k :: outer))
  | .after v (.array items :: outer), .comma => some (.value (.array (v :: items) :: outer))
  | .after v (.array items :: outer), .closeBracket =>
    some (.after (.array (v :: items).reverse) outer)
  | .after v (.object members k :: outer), .comma => some (.name ((k, v) :: members) outer)
  | .after v (.object members k :: outer), .closeBrace =>
    some (.after (.object ((k, v) :: members).reverse) outer)
  | _, _ => none

/-- Takes in tokens. -/
def run? : State → List Token → Option State
  | s, [] => some s
  | s, t :: ts => (step? s t).bind fun s => run? s ts

/-- The value, if it is complete and nothing is open. -/
def result? : State → Option Json
  | .after v [] => some v
  | _ => none

end State

/-- The document that tokens write. -/
def ofTokens? (ts : List Token) : Option Json :=
  (State.run? (.value []) ts).bind State.result?

/-- The document that a text writes. -/
def parse? (s : String) : Option Json :=
  (Token.ofChars? s.toList).bind ofTokens?

/-- A text can be given by its characters.  A literal is, and reading it off its characters saves
the kernel from decoding its bytes. -/
theorem parse?_ofList (cs : List Char) :
    parse? (String.ofList cs) = (Token.ofChars? cs).bind ofTokens? := by
  rw [parse?, String.toList_ofList]

end OffChain.Json
