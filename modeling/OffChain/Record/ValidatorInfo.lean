import OffChain.Json.Fields

/-!
# Metadata of validators

What a validator publishes about itself.  A record without a name counts as empty: it stands for a
validator that published nothing.
-/

namespace OffChain

/-- The published metadata of a validator. -/
structure ValidatorInfo where
  /-- The name to show. -/
  name : Option String
  /-- Where its logo is. -/
  logoUrl : Option String
  /-- Its web site. -/
  website : Option String
  /-- How to reach it. -/
  contact : Option String
deriving DecidableEq

namespace ValidatorInfo

/-- The record of a validator that published nothing. -/
def none : ValidatorInfo :=
  ⟨.none, .none, .none, .none⟩

/-- Whether it stands for a validator that published nothing. -/
def isEmpty (info : ValidatorInfo) : Bool :=
  info.name.isNone

/-- The record, unless it is an empty one. -/
def orNone (info : ValidatorInfo) : Option ValidatorInfo :=
  if info.isEmpty then .none else some info

/-- The names of its fields in documents. -/
def fieldNames : List String :=
  ["name", "logoUrl", "website", "contact"]

/-- The document of a record. -/
def toJson (info : ValidatorInfo) : Json :=
  .record
    [("name", .orNull Json.ofString info.name), ("logoUrl", .orNull Json.ofString info.logoUrl),
      ("website", .orNull Json.ofString info.website),
      ("contact", .orNull Json.ofString info.contact)]

/-- Reads a record. -/
def ofJson? (j : Json) : Option ValidatorInfo :=
  match j.fields? fieldNames with
  | some [name, logoUrl, website, contact] => do
    let name ← Json.optional Json.toString? name
    let logoUrl ← Json.optional Json.toString? logoUrl
    let website ← Json.optional Json.toString? website
    let contact ← Json.optional Json.toString? contact
    some ⟨name, logoUrl, website, contact⟩
  | _ => .none

end ValidatorInfo

end OffChain
