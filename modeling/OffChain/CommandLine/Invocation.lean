import OffChain.CommandLine.Arguments

/-!
# The command line

The program has four commands.  How much it reports and which database it uses are asked for on
either side of the command's name; what stands behind it counts.
-/

namespace OffChain.CommandLine

/-! ### What is asked for -/

/-- What the program is asked to do. -/
inductive Command where
  /-- To classify the stored calls, at most `limit` of them. -/
  | classify (limit : UInt64) (stakingContract : Option Address)
  /-- To show what a validator published. -/
  | validator (id : UInt64) (contract : Option Address)
  /-- To list withdrawal requests of a delegator. -/
  | requests (address : Address) (staker : Option UInt64) (cursor : Option String)
    (count : Int32) (output : ListingFormat)
  /-- To show the row counts. -/
  | status
deriving DecidableEq

/-- A well-formed command line. -/
structure Invocation where
  /-- How often more reports are asked for. -/
  verbosity : Nat
  /-- Whether fewer reports are asked for. -/
  quiet : Bool
  /-- Where the database is. -/
  path : String
  /-- The command. -/
  command : Command
deriving DecidableEq

/-! ### Scopes -/

/-- The options of every scope. -/
def commonOptions : List OptionSpec :=
  [⟨"verbose", some 'v', .counter⟩, ⟨"quiet", some 'q', .flag⟩, ⟨"db-path", none, .value .text⟩,
    ⟨"help", some 'h', .help⟩]

/-- The options of the commands. -/
def commandOptions : String → List OptionSpec
  | "classify" => [⟨"limit", none, .value .number⟩, ⟨"sfc", none, .value .address⟩]
  | "staker-info" => [⟨"id", none, .value .number⟩, ⟨"sti", none, .value .address⟩]
  | "withdrawals" =>
    [⟨"address", none, .value .address⟩, ⟨"staker", none, .value .number⟩,
      ⟨"cursor", none, .value .text⟩, ⟨"count", none, .value .signed⟩,
      ⟨"output", none, .value .format⟩]
  | _ => []

/-- The names of the commands, with the one that shows help. -/
def commandNames : List String :=
  ["classify", "staker-info", "withdrawals", "status", "help"]

/-- The scope of the program. -/
def programScope : Scope :=
  ⟨⟨"version", some 'V', .version⟩ :: commonOptions, commandNames⟩

/-- The scope of a command. -/
def commandScope (name : String) : Scope :=
  ⟨commandOptions name ++ commonOptions, []⟩

/-! ### Reading -/

/-- A value that has to be there. -/
def needed {α : Type} : Option α → Except UsageError α
  | some a => .ok a
  | none => .error .missingRequiredArgument

/-- The command of a name with its options. -/
def commandOf (name : String) (s : Scan) : Except UsageError Command :=
  match name with
  | "classify" =>
    .ok (.classify (((s.value? "limit").bind readUInt64?).getD 10000)
      ((s.value? "sfc").bind FixedBytes.ofText?))
  | "staker-info" => do
    let id ← needed ((s.value? "id").bind readUInt64?)
    .ok (.validator id ((s.value? "sti").bind FixedBytes.ofText?))
  | "withdrawals" => do
    let address ← needed ((s.value? "address").bind FixedBytes.ofText?)
    .ok (.requests address ((s.value? "staker").bind readUInt64?) (s.value? "cursor")
      (((s.value? "count").bind readInt32?).getD 25)
      (((s.value? "output").bind ListingFormat.ofName?).getD .table))
  | _ => .ok .status

/-- What comes of asking for help on something. -/
def helpOn : List String → UsageError
  | [] => .displayHelp
  | [name] => if commandNames.contains name then .displayHelp else .invalidSubcommand
  | _ => .invalidSubcommand

/-- What comes of a command line without a command. -/
def withoutCommand (s : Scan) : UsageError :=
  if s.given.isEmpty then .displayHelpOnMissing else .missingSubcommand

/-- The command line of what was read in both scopes. -/
def invocationOf (program scope : Scan) (command : Command) : Invocation :=
  let count := scope.count "verbose"
  { verbosity := if count = 0 then program.count "verbose" else count
    quiet := scope.has "quiet" || program.has "quiet"
    path := ((scope.value? "db-path").or (program.value? "db-path")).getD "data/opera.sqlite"
    command := command }

/-- Reads the arguments of the program. -/
def parse (args : List String) : Except UsageError Invocation := do
  let (program, command?) ← Scan.run programScope Scan.start args
  match command? with
  | none => do
    let program ← program.settle
    .error (withoutCommand program)
  | some (name, rest) =>
    if name = "help" then .error (helpOn rest)
    else do
      let (scope, _) ← Scan.run (commandScope name) Scan.start rest
      let scope ← scope.settle
      let command ← commandOf name scope
      let program ← program.settle
      .ok (invocationOf program scope command)

end OffChain.CommandLine
