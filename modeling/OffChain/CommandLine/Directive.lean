import OffChain.Text.Alphanumeric
import OffChain.Text.Blank
import OffChain.Text.Decimal
import OffChain.Text.Slice
import OffChain.Text.Split
import OffChain.CommandLine.Pattern

/-!
# Directives of a filter

A directive is a level, a target, or a target and a level with an equals sign between them.  Behind
the target, in brackets, it can name a span and in braces a field, perhaps with a value:
`target[span{field=value}]=level`.  A directive with a span or a value speaks of nothing that is
reported here, but it is well formed all the same.

Blanks around a directive do not count when its characters are told apart; its parts, however, are
cut out of the text with the blanks, at the positions that were found without them.  A cut that
would tear a character apart stops the program.
-/

namespace OffChain.CommandLine

/-- Why there is no filter. -/
inductive FilterError where
  /-- A text is no directive. -/
  | malformed
  /-- A part of a directive would begin or end within a character. -/
  | torn
deriving DecidableEq, Repr

/-- What a directive asks of a field. -/
structure FieldTest where
  /-- The name of the field. -/
  name : String
  /-- Whether the field has to have a value. -/
  hasValue : Bool
deriving DecidableEq, Repr

/-- A directive. -/
structure Directive where
  /-- The beginning of the targets that it speaks of; all of them if there is none. -/
  target : Option String
  /-- The span that it speaks of. -/
  span : Option String
  /-- What it asks of a field. -/
  field : Option FieldTest
  /-- The number of levels that it lets through, counted from the weightiest. -/
  threshold : Nat
deriving DecidableEq, Repr

namespace Directive

/-! ### Levels -/

/-- The names of the thresholds. -/
def thresholdNames : List (String × Nat) :=
  [("off", 0), ("error", 1), ("warn", 2), ("info", 3), ("debug", 4), ("trace", 5)]

/-- The threshold that a text stands for: a name in any case or a number. -/
def threshold? (s : String) : Option Nat :=
  match (Decimal.signed? s.toList).filter fun _ => s.toList.head? != some '-' with
  | some n => if n ≤ 5 then some n.toNat else none
  | none =>
    let lower := String.ofList (s.toList.map Char.toLower)
    (thresholdNames.find? fun t => t.1 == lower).map fun t => t.2

/-- The threshold that a text behind an equals sign stands for; the empty text lets everything
through. -/
def thresholdOrAll (s : String) : Except FilterError Nat :=
  if s.isEmpty then .ok 5
  else
    match threshold? s with
    | some n => .ok n
    | none => .error .malformed

/-! ### Parts of a text -/

/-- The part of a text from one position to another, counted in bytes. -/
def slice (whole : List Char) (first last : Nat) : Except FilterError String :=
  match (Text.dropBytes? first whole).bind (Text.takeBytes? (last - first)) with
  | some cs => .ok (String.ofList cs)
  | none => .error .torn

/-- The part of a text from a position on. -/
def sliceFrom (whole : List Char) (first : Nat) : Except FilterError String :=
  match Text.dropBytes? first whole with
  | some cs => .ok (String.ofList cs)
  | none => .error .torn

/-! ### Reading -/

/-- How far the reading of a directive has come: what is complete and, of the part that is being
read, where it begins. -/
inductive Stage where
  /-- Nothing has been read. -/
  | start
  /-- A level or a target, from the beginning on. -/
  | word
  /-- A span. -/
  | span (target : Option String) (first : Nat)
  /-- A field. -/
  | field (target span : Option String) (first : Nat)
  /-- What follows a field. -/
  | behindField (target span : Option String) (field : FieldTest)
  /-- What follows the brackets. -/
  | behindSpan (target span : Option String) (field : Option FieldTest)
  /-- A level. -/
  | level (target span : Option String) (field : Option FieldTest) (first : Nat)
deriving DecidableEq, Repr

/-- The characters besides letters and numbers that a directive can begin with. -/
def isStart (c : Char) : Bool :=
  Text.isAlphanumeric c || c == '-' || c == ':' || c == '_'

/-- Reads what is asked of a field: its name and perhaps a value. -/
def fieldTest (s : String) : Except FilterError FieldTest :=
  if s.isEmpty then .error .malformed
  else
    match Text.splitAt '=' s.toList with
    | name :: value :: _ =>
      if Pattern.isValue value then .ok ⟨String.ofList name, true⟩ else .error .malformed
    | _ => .ok ⟨s, false⟩

/-- Takes in the character at a position. -/
def step (whole : List Char) (i : Nat) (c : Char) : Stage → Except FilterError Stage
  | .start =>
    if c = '[' then .ok (.span none (i + 1))
    else if isStart c then .ok .word
    else .error .malformed
  | .word =>
    if c = '=' then (slice whole 0 i).map fun target => .level (some target) none none (i + 1)
    else if c = '[' then (slice whole 0 i).map fun target => .span (some target) (i + 1)
    else .ok .word
  | .span target first =>
    if c = ']' then (slice whole first i).map fun span => .behindSpan target (some span) none
    else if c = '\x7b' then
      (slice whole first i).map fun span =>
        .field target (if span.isEmpty then none else some span) (i + 1)
    else .ok (.span target first)
  | .field target span first =>
    if c = '\x7d' then do
      let s ← slice whole first i
      let test ← fieldTest s
      .ok (.behindField target span test)
    else .ok (.field target span first)
  | .behindField target span test =>
    if c = ']' then .ok (.behindSpan target span (some test)) else .error .malformed
  | .behindSpan target span field =>
    if c = '=' then .ok (.level target span field (i + 1)) else .error .malformed
  | .level target span field first => .ok (.level target span field first)

/-- Takes in characters from a position on. -/
def run (whole : List Char) : Nat → Stage → List Char → Except FilterError Stage
  | _, stage, [] => .ok stage
  | i, stage, c :: cs => do
    let stage ← step whole i c stage
    run whole (i + c.utf8Size) stage cs

/-- The directive of a text that has been read to its end. -/
def finish (whole : List Char) : Stage → Except FilterError Directive
  | .word =>
    let s := String.ofList whole
    match threshold? s with
    | some n => .ok ⟨none, none, none, n⟩
    | none => .ok ⟨some s, none, none, 5⟩
  | .behindSpan target span field => .ok ⟨target, span, field, 5⟩
  | .level target span field first => do
    let s ← sliceFrom whole first
    let n ← thresholdOrAll s
    .ok ⟨target, span, field, n⟩
  | _ => .error .malformed

/-- Reads a directive. -/
def ofChars (whole : List Char) : Except FilterError Directive := do
  let stage ← run whole 0 .start (Text.trim (String.ofList whole)).toList
  finish whole stage

/-! ### What a directive speaks of -/

/-- Whether it speaks of events that are in no span. -/
def isStatic (d : Directive) : Bool :=
  d.span.isNone && !d.field.any FieldTest.hasValue

/-- Whether it speaks of an event of a target with some fields. -/
def covers (d : Directive) (target : String) (fieldNames : List String) : Bool :=
  d.target.all (fun start => start.toList.isPrefixOf target.toList)
    && d.field.all fun test => fieldNames.contains test.name

/-- The order of directives that speak of one event: the one with the longer target is the more
specific one, then one with a field, then the one whose field has the greater name. -/
def isMoreSpecific (a b : Directive) : Bool :=
  let length (d : Directive) := d.target.map String.utf8ByteSize
  let name (d : Directive) := d.field.map FieldTest.name
  if length a = length b then
    match name a, name b with
    | some x, some y => decide (y < x)
    | some _, none => true
    | none, _ => false
  else
    match length a, length b with
    | some m, some n => decide (n < m)
    | some _, none => true
    | none, _ => false

end Directive

end OffChain.CommandLine
