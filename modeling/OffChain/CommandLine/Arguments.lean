import OffChain.Address
import OffChain.Text.Decimal

/-!
# Reading arguments

Options are long (`--name value` or `--name=value`) or, if they take no value, short; short ones can
be joined (`-vq`).  An option that takes a value waits for it, and what it got is checked only when
the next option is there or the arguments end.  A value does not begin with a minus sign, unless the
option takes negative numbers and it is one.  After `--` no option is recognised.

The arguments of the program and those of a command are read in scopes of their own, each with the
options that it knows.  The name of a command ends the scope of the program.
-/

namespace OffChain.CommandLine

/-- What is wrong with the arguments, or what is asked for in place of a command. -/
inductive UsageError where
  /-- There is no such option, or nothing can stand here. -/
  | unknownArgument
  /-- An option has no value, or not one of those that it knows. -/
  | invalidValue
  /-- The value of an option cannot be read. -/
  | valueValidation
  /-- An option is given twice. -/
  | argumentConflict
  /-- An option that is required is not given. -/
  | missingRequiredArgument
  /-- No command is given. -/
  | missingSubcommand
  /-- There is no such command. -/
  | invalidSubcommand
  /-- An option that takes no value has one. -/
  | tooManyValues
  /-- Help is asked for. -/
  | displayHelp
  /-- The version is asked for. -/
  | displayVersion
  /-- Nothing is given at all, so help is shown. -/
  | displayHelpOnMissing
deriving DecidableEq, Repr

/-! ### Values -/

/-- A number of 64 bits: digits behind an optional plus sign. -/
def readUInt64? (s : String) : Option UInt64 :=
  let digits :=
    match s.toList with
    | '+' :: cs => cs
    | cs => cs
  (Decimal.ofChars? digits).bind fun n => if n < UInt64.size then some (UInt64.ofNat n) else none

/-- A number of 32 bits: digits behind an optional sign. -/
def readInt32? (s : String) : Option Int32 :=
  ((Decimal.signed? s.toList).filter fun i => (Int32.ofInt i).toInt == i).map Int32.ofInt

/-- How a listing is printed. -/
inductive ListingFormat where
  | table
  | json
deriving DecidableEq, Repr

namespace ListingFormat

/-- The format of a name. -/
def ofName? : String → Option ListingFormat
  | "table" => some table
  | "json" => some json
  | _ => none

end ListingFormat

/-- What an option takes as its value. -/
inductive ValueKind where
  /-- Any text. -/
  | text
  /-- A number of 64 bits. -/
  | number
  /-- A number of 32 bits, possibly negative. -/
  | signed
  /-- An address. -/
  | address
  /-- The name of an output format. -/
  | format
deriving DecidableEq, Repr

namespace ValueKind

/-- What is wrong with a value, if anything. -/
def fault? (kind : ValueKind) (s : String) : Option UsageError :=
  match kind with
  | text => none
  | number => if (readUInt64? s).isSome then none else some .valueValidation
  | signed => if (readInt32? s).isSome then none else some .valueValidation
  | address =>
    if (FixedBytes.ofText? s : Option Address).isSome then none else some .valueValidation
  | format => if (ListingFormat.ofName? s).isSome then none else some .invalidValue

end ValueKind

/-! ### Options -/

/-- What an option does. -/
inductive OptionKind where
  /-- It asks for help. -/
  | help
  /-- It asks for the version. -/
  | version
  /-- It is there or not. -/
  | flag
  /-- It counts how often it is there. -/
  | counter
  /-- It has a value. -/
  | value (kind : ValueKind)
deriving DecidableEq, Repr

/-- An option. -/
structure OptionSpec where
  /-- The name behind two minus signs. -/
  long : String
  /-- The letter behind one minus sign, if there is one. -/
  short : Option Char
  /-- What it does. -/
  kind : OptionKind
deriving DecidableEq, Repr

namespace OptionSpec

/-- Whether its value can be a negative number that stands on its own. -/
def allowsNegative (spec : OptionSpec) : Bool :=
  spec.kind == .value .signed

/-- What is wrong with a value of the option, if anything. -/
def fault? (spec : OptionSpec) (s : String) : Option UsageError :=
  match spec.kind with
  | .value kind => kind.fault? s
  | _ => none

end OptionSpec

/-- What can stand in a scope. -/
structure Scope where
  /-- The options. -/
  options : List OptionSpec
  /-- The commands that open a scope of their own. -/
  commands : List String
deriving DecidableEq, Repr

namespace Scope

/-- What is wrong with an argument that is neither an option nor a value nor a command. -/
def misplaced (scope : Scope) : UsageError :=
  if scope.commands.isEmpty then .unknownArgument else .invalidSubcommand

end Scope

/-! ### Arguments one by one -/

/-- What an argument looks like. -/
inductive Argument where
  /-- Two minus signs alone. -/
  | escape
  /-- A long option, perhaps with a value behind an equals sign. -/
  | long (name : String) (attached : Option String)
  /-- Short options. -/
  | shorts (letters : List Char)
  /-- Anything else. -/
  | plain (s : String)
deriving DecidableEq, Repr

namespace Argument

/-- What an argument looks like. -/
def ofString (s : String) : Argument :=
  match s.toList with
  | ['-', '-'] => escape
  | '-' :: '-' :: cs =>
    match cs.dropWhile fun c => c != '=' with
    | [] => long (String.ofList cs) none
    | _ :: value =>
      long (String.ofList (cs.takeWhile fun c => c != '=')) (some (String.ofList value))
  | '-' :: c :: cs => shorts (c :: cs)
  | _ => plain s

/-- Whether digits, at most one point and at most one `e` make a number: the first character is a
digit, the point is not behind the `e`, and the `e` is not the last character. -/
def isNumber (cs : List Char) : Bool :=
  let mantissa := cs.takeWhile fun c => c != 'e'
  let isMantissa := (mantissa.all fun c => c.isDigit || c == '.') && mantissa.count '.' ≤ 1
    && mantissa.head? != some '.'
  match cs.dropWhile fun c => c != 'e' with
  | [] => isMantissa
  | _ :: exponent =>
    isMantissa && !mantissa.isEmpty && !exponent.isEmpty && exponent.all Char.isDigit

end Argument

/-! ### Scopes -/

/-- The arguments of a scope that have been read. -/
structure Scan where
  /-- The options that were given, with their values. -/
  given : List (String × String)
  /-- The last option that takes a value, as long as the value has not been checked. -/
  pending : Option (OptionSpec × Option String)
deriving DecidableEq, Repr

namespace Scan

/-- Nothing has been read. -/
def start : Scan :=
  ⟨[], none⟩

/-- Whether an option was given. -/
def has (s : Scan) (name : String) : Bool :=
  s.given.any fun g => g.1 == name

/-- The value of an option, if it was given. -/
def value? (s : Scan) (name : String) : Option String :=
  (s.given.find? fun g => g.1 == name).map fun g => g.2

/-- How often an option was given. -/
def count (s : Scan) (name : String) : Nat :=
  s.given.countP fun g => g.1 == name

/-- Gives a value to an option. -/
def accept (s : Scan) (spec : OptionSpec) (value : String) : Except UsageError Scan :=
  if s.has spec.long then .error .argumentConflict
  else
    match spec.fault? value with
    | some e => .error e
    | none => .ok { s with given := s.given ++ [(spec.long, value)] }

/-- Checks what the last option that takes a value got. -/
def settle (s : Scan) : Except UsageError Scan :=
  match s.pending with
  | none => .ok s
  | some (_, none) => .error .invalidValue
  | some (spec, some value) => accept { s with pending := none } spec value

/-- The option that waits for its value. -/
def awaiting? (s : Scan) : Option OptionSpec :=
  match s.pending with
  | some (spec, none) => some spec
  | _ => none

/-- An option that takes no value. -/
def react (s : Scan) (spec : OptionSpec) : Except UsageError Scan := do
  let s ← s.settle
  match spec.kind with
  | .help => .error .displayHelp
  | .version => .error .displayVersion
  | .counter => .ok { s with given := s.given ++ [(spec.long, "")] }
  | _ => s.accept spec ""

/-- A long option. -/
def takeLong (scope : Scope) (s : Scan) (name : String) (attached : Option String) :
    Except UsageError Scan :=
  match scope.options.find? fun spec => spec.long == name with
  | none => .error .unknownArgument
  | some spec =>
    match spec.kind, attached with
    | .value _, some value => do
      let s ← s.settle
      s.accept spec value
    | .value _, none => do
      let s ← s.settle
      .ok { s with pending := some (spec, none) }
    | _, some _ => .error .tooManyValues
    | _, none => s.react spec

/-- Short options. -/
def takeShorts (scope : Scope) : Scan → List Char → Except UsageError Scan
  | s, [] => .ok s
  | s, c :: cs =>
    match scope.options.find? fun spec => spec.short == some c with
    | none => .error .unknownArgument
    | some spec => do
      let s ← s.react spec
      takeShorts scope s cs

/-- A value on its own. -/
def takeValue (scope : Scope) (s : Scan) (value : String) : Except UsageError Scan :=
  match s.awaiting? with
  | some spec => .ok { s with pending := some (spec, some value) }
  | none => .error scope.misplaced

/-- An argument that does not name a command. -/
def take (scope : Scope) (s : Scan) (arg : String) : Argument → Except UsageError Scan
  | .escape => .ok s
  | .long name attached => takeLong scope s name attached
  | .shorts letters =>
    if s.awaiting?.any OptionSpec.allowsNegative && Argument.isNumber letters then
      takeValue scope s arg
    else takeShorts scope s letters
  | .plain value => takeValue scope s value

/-- What is wrong with an argument behind `--`. -/
def afterEscape (scope : Scope) (arg : String) : UsageError :=
  if scope.commands.contains arg then .unknownArgument else scope.misplaced

/-- Reads the arguments of a scope; gives also the command that ends it, if one does, and what
follows that. -/
def run (scope : Scope) : Scan → List String →
    Except UsageError (Scan × Option (String × List String))
  | s, [] => .ok (s, none)
  | s, arg :: rest =>
    if s.awaiting?.isNone && scope.commands.contains arg then .ok (s, some (arg, rest))
    else if Argument.ofString arg = .escape then
      match rest with
      | [] => .ok (s, none)
      | next :: _ => .error (afterEscape scope next)
    else do
      let s ← s.take scope arg (Argument.ofString arg)
      run scope s rest

end Scan

end OffChain.CommandLine
