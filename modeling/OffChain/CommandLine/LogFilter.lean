import OffChain.CommandLine.Directive
import OffChain.Event
import OffChain.Text.Split

/-!
# Which events are shown

A filter is a list of directives, in its text separated by commas.  A directive lets events of some
level and of all weightier ones through, of every target or of those whose name begins with a given
one, and perhaps only those that have some field; the most specific directive decides, and of two
for the same events the later one.  What no directive speaks of is not shown.
-/

namespace OffChain.CommandLine

/-- A filter of events. -/
structure LogFilter where
  /-- The directives; of two for the same events the later one counts. -/
  directives : List Directive
deriving DecidableEq, Repr

namespace LogFilter

/-! ### Reading -/

/-- The filter of some directives: those with a field come after those without. -/
def ofDirectives (directives : List Directive) : LogFilter :=
  let static := directives.filter Directive.isStatic
  ⟨(static.filter fun d => d.field.isNone) ++ static.filter fun d => d.field.isSome⟩

/-- Reads a filter. -/
def ofText (s : String) : Except FilterError LogFilter := do
  let parts := (Text.splitAt ',' s.toList).filter fun part => !part.isEmpty
  let directives ← parts.mapM Directive.ofChars
  .ok (ofDirectives directives)

/-! ### Deciding -/

/-- The more specific one of two directives, the later one if neither is. -/
def prefer (best : Option Directive) (d : Directive) : Option Directive :=
  match best with
  | none => some d
  | some b => if b.isMoreSpecific d then some b else some d

/-- Whether an event of a target is shown. -/
def allows (f : LogFilter) (target : String) (e : Event) : Bool :=
  let speaking := f.directives.filter fun d => d.covers target e.fieldNames
  (speaking.foldl prefer none).any fun d => e.level.rank ≤ d.threshold

/-- The filter that the options for more and fewer reports ask for. -/
def ofVerbosity (quiet : Bool) (verbosity : Nat) : LogFilter :=
  let threshold := if quiet then 2 else min (verbosity + 3) 5
  ⟨[⟨none, none, none, threshold⟩]⟩

/-- The filter in force: the given one if it is well formed, and otherwise that of the options;
`none` if the given one cannot be taken apart. -/
def choose? (given : Option String) (quiet : Bool) (verbosity : Nat) : Option LogFilter :=
  match given.map ofText with
  | some (.ok filter) => some filter
  | some (.error .torn) => none
  | some (.error .malformed) => some (ofVerbosity quiet verbosity)
  | none => some (ofVerbosity quiet verbosity)

end LogFilter

end OffChain.CommandLine
