import OffChain.Event
import OffChain.Json.Parser
import OffChain.Json.Printer
import OffChain.Record.ValidatorInfo
import OffChain.UInt256

/-!
# The cache of validators' metadata

The cache keeps records as the texts of their documents, at most a budget of bytes of them.  To make
room for a new entry it drops the entries that are no longer good and then the oldest ones; an entry
that exceeds the whole budget is refused.  Time does not pass here: with a lifetime of zero an entry
is never good, and otherwise always.
-/

namespace OffChain

/-- What the cache keeps under a key. -/
structure CachedDocument where
  /-- The key. -/
  key : String
  /-- The text of the document. -/
  data : String
deriving DecidableEq, Repr

namespace CachedDocument

/-- The bytes that count against the budget: those of the document. -/
def size (e : CachedDocument) : Nat :=
  e.data.utf8ByteSize

end CachedDocument

/-- A cache of validators' metadata. -/
structure Cache where
  /-- For how many milliseconds an entry is good. -/
  lifetime : Nat
  /-- How many bytes the cache may hold. -/
  budget : Nat
  /-- The entries, oldest first. -/
  entries : List CachedDocument
  /-- How many bytes the cache holds. -/
  used : Nat
deriving DecidableEq, Repr

/-- An entry exceeds the whole budget. -/
structure OversizedEntry where
  /-- The size of the entry. -/
  size : Nat
  /-- The budget. -/
  limit : Nat
deriving DecidableEq, Repr

namespace OversizedEntry

/-- What is wrong. -/
def message (e : OversizedEntry) : String :=
  "cache entry of " ++ Decimal.text e.size ++ " bytes exceeds the " ++ Decimal.text e.limit
    ++ " bytes budget"

end OversizedEntry

namespace Cache

/-- A cache without entries. -/
def empty (lifetime budget : Nat) : Cache :=
  ⟨lifetime, budget, [], 0⟩

/-- The number of entries. -/
def size (c : Cache) : Nat :=
  c.entries.length

/-- Whether there is no entry. -/
def isEmpty (c : Cache) : Bool :=
  c.entries.isEmpty

/-- The key of a validator. -/
def keyOf (id : UInt256) : String :=
  "sti-" ++ UInt256.toText id

/-- The text that is kept of a record. -/
def encode (info : ValidatorInfo) : String :=
  info.toJson.render

/-- The record that a text was kept for. -/
def decode? (data : String) : Option ValidatorInfo :=
  (Json.parse? data).bind ValidatorInfo.ofJson?

/-- Whether entries are no longer good. -/
def isStale (c : Cache) : Bool :=
  c.lifetime == 0

/-! ### Removing entries -/

/-- The total size of some entries. -/
def totalSize : List CachedDocument → Nat
  | [] => 0
  | e :: rest => e.size + totalSize rest

/-- Removes the entry of a key. -/
def erase (c : Cache) (key : String) : Cache :=
  { c with
    entries := c.entries.filter fun e => e.key != key
    used := c.used - totalSize (c.entries.filter fun e => e.key == key) }

/-- Removes all entries that are no longer good. -/
def eraseStale (c : Cache) : Cache :=
  if c.isStale then
    { c with entries := [], used := c.used - totalSize c.entries }
  else c

/-- What remains of some entries of the given total size after the oldest ones were dropped, one
after the other, until so many more bytes fit. -/
def dropOldest (budget incoming : Nat) : List CachedDocument → Nat → List CachedDocument × Nat
  | [], used => ([], used)
  | e :: rest, used =>
    if budget < used + incoming then dropOldest budget incoming rest (used - e.size)
    else (e :: rest, used)

/-- Removes the oldest entries until so many more bytes fit. -/
def eraseOldest (c : Cache) (incoming : Nat) : Cache :=
  let (entries, used) := dropOldest c.budget incoming c.entries c.used
  { c with entries := entries, used := used }

/-- Makes room for so many more bytes. -/
def trimFor (c : Cache) (incoming : Nat) : Cache :=
  if c.used + incoming ≤ c.budget then c else c.eraseStale.eraseOldest incoming

/-! ### Writing and reading -/

/-- Adds an entry as the newest one. -/
def append (c : Cache) (e : CachedDocument) : Cache :=
  { c with entries := c.entries ++ [e], used := c.used + e.size }

/-- Keeps the record of a validator, in the place of an earlier one. -/
def insert (c : Cache) (id : UInt256) (info : ValidatorInfo) : Except OversizedEntry Cache :=
  let e : CachedDocument := ⟨keyOf id, encode info⟩
  if c.budget < e.size then .error ⟨e.size, c.budget⟩
  else .ok (((c.erase e.key).trimFor e.size).append e)

/-- The record of a validator; an entry that is no longer good is removed instead. -/
def find (c : Cache) (id : UInt256) : Logged (Cache × Option ValidatorInfo) :=
  match c.entries.find? fun e => e.key == keyOf id with
  | none => pure (c, none)
  | some e =>
    if c.isStale then do
      Logged.report .cache .trace "cache entry expired" [("key", .quoted e.key)]
      pure (c.erase e.key, none)
    else
      match decode? e.data with
      | some info => pure (c, some info)
      | none => do
        Logged.report .cache .warn "undecodable cache entry" [("key", .quoted e.key)]
        pure (c, none)

end Cache

end OffChain
