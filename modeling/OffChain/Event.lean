/-!
# Events

What the components report while they work.  An event has a level, a message and named fields; a
field is shown as it is or, if it is a piece of text in its own right, in quotes.  A field that has
a name, but no text that is known here, is not shown.  `Logged` pairs a value with the events of the
work that led to it, in their order.
-/

namespace OffChain

/-- How much an event matters, the weightiest first. -/
inductive Level where
  | error
  | warn
  | info
  | debug
  | trace
deriving DecidableEq, Repr

namespace Level

/-- Its name. -/
def name : Level → String
  | error => "ERROR"
  | warn => "WARN"
  | info => "INFO"
  | debug => "DEBUG"
  | trace => "TRACE"

/-- The number of levels up to this one. -/
def rank : Level → Nat
  | error => 1
  | warn => 2
  | info => 3
  | debug => 4
  | trace => 5

end Level

/-- The part of the program that reports. -/
inductive Component where
  | labels
  | cache
  | source
  | worker
  | archive
  | command
deriving DecidableEq, Repr

/-- The value of a field. -/
inductive FieldValue where
  /-- Shown as it is. -/
  | shown (s : String)
  /-- Shown in quotes. -/
  | quoted (s : String)
  /-- Not shown. -/
  | hidden
deriving DecidableEq, Repr

/-- An event. -/
structure Event where
  /-- Who reports it. -/
  component : Component
  /-- How much it matters. -/
  level : Level
  /-- What happened. -/
  message : String
  /-- The details, in the order in which they are shown. -/
  fields : List (String × FieldValue)
deriving DecidableEq, Repr

namespace Event

/-- The names of what the event tells: the message and the details. -/
def fieldNames (e : Event) : List String :=
  "message" :: e.fields.map fun field => field.1

end Event

/-- A value and the events of the work that led to it. -/
structure Logged (α : Type) where
  /-- The value. -/
  value : α
  /-- The events, first one first. -/
  events : List Event

namespace Logged

variable {α β : Type}

instance : Monad Logged where
  pure a := ⟨a, []⟩
  bind x f := ⟨(f x.value).value, x.events ++ (f x.value).events⟩

/-- Reports an event. -/
def report (component : Component) (level : Level) (message : String)
    (fields : List (String × FieldValue)) : Logged Unit :=
  ⟨(), [⟨component, level, message, fields⟩]⟩

@[simp]
theorem value_pure (a : α) : (pure a : Logged α).value = a := rfl

@[simp]
theorem value_bind (x : Logged α) (f : α → Logged β) : (x >>= f).value = (f x.value).value := rfl

end Logged

end OffChain
