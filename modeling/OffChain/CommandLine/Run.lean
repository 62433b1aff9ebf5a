import OffChain.CommandLine.Invocation
import OffChain.CommandLine.LogFilter
import OffChain.CommandLine.LogLine
import OffChain.Database.Disk
import OffChain.Report.Summary

/-!
# Carrying out commands

A command works on the databases of a disk and, to show what a validator published, asks a node
of the chain.  It prints a text or fails; what it wrote into a database before that stays.
-/

namespace OffChain.CommandLine

/-! ### Failures -/

/-- Why a command fails. -/
inductive Failure where
  /-- It is not known where the node is. -/
  | missingNode
  /-- It is not known which contract knows of metadata. -/
  | missingContract
  /-- Where the node is said to be is no URL. -/
  | invalidNode
  /-- The node cannot be asked. -/
  | source (cause : SourceError)
  /-- A database cannot be opened. -/
  | cannotOpen (path : String)
  /-- A database cannot be made ready. -/
  | unready
  /-- The calls that are to be classified cannot be loaded. -/
  | pendingCalls (cause : StoreError)
  /-- The rows cannot be counted. -/
  | rowCounts (cause : StoreError)
  /-- Withdrawal requests cannot be listed. -/
  | listing (cause : StoreError)
deriving DecidableEq

namespace Failure

/-- The chain of messages, outermost first. -/
def messages : Failure → List String
  | missingNode => ["OPERA_RPC_URL is required for staker-info command"]
  | missingContract => ["--sti is required, no staker info contract is configured"]
  | invalidNode => ["invalid RPC URL format"]
  | source cause => [cause.message]
  | cannotOpen path =>
    ["failed to open SQLite store", "failed to open SQLite database at " ++ path]
  | unready => ["failed to open SQLite store"]
  | pendingCalls cause => "failed to load unclassified calls" :: cause.messages
  | rowCounts cause => "failed to query row counts" :: cause.messages
  | listing cause => cause.messages

/-- The failure of a command whose database is not open. -/
def ofFault (path : String) : Database.Disk.Fault → Failure
  | .closed => cannotOpen path
  | .unready => unready

end Failure

/-! ### Commands -/

/-- What surrounds the program. -/
structure Surroundings where
  /-- The files. -/
  disk : Database.Disk
  /-- The network. -/
  network : Network
  /-- Where the node is said to be. -/
  nodeUrl : Option String

/-- What a command leads to. -/
structure Result where
  /-- The files afterwards. -/
  disk : Database.Disk
  /-- What was asked of the network. -/
  requests : List Network.Request
  /-- What the command prints. -/
  output : Except Failure String

/-- The result of a command that failed without doing anything. -/
def failed (disk : Database.Disk) (failure : Failure) : Result :=
  ⟨disk, [], .error failure⟩

/-- Reports that a command is done. -/
def reportDone (message : String) (fields : List (String × FieldValue)) : Logged Unit :=
  Logged.report .command .info message fields

/-- A number as the value of a field. -/
def numberField (name : String) (n : Nat) : String × FieldValue :=
  (name, .shown (Decimal.text n))

/-- Works on the database of a name, which may be created. -/
def withStore (disk : Database.Disk) (path : String)
    (work : Database.Disk → Store → Logged (Store × Except Failure String)) : Logged Result :=
  match disk.openStore path with
  | (disk, .error fault) => pure (failed disk (.ofFault path fault))
  | (disk, .ok session) => do
    let (store, output) ← work disk session.store
    pure ⟨disk.close { session with store := store }, [], output⟩

/-- Classifies the stored calls that have not been classified. -/
def classify (path : String) (limit : UInt64) (stakingContract : Option Address) (store : Store) :
    Logged (Store × Except Failure String) :=
  match store.pendingCalls limit with
  | .error e => pure (store, .error (.pendingCalls e))
  | .ok [] => do
    reportDone "no unclassified contract calls" [("db_path", .shown path)]
    pure (store, .ok "")
  | .ok pending => do
    let config :=
      { Config.standard with
        stakingContract := stakingContract.getD Config.standard.stakingContract }
    let archive := Archive.ofStore config store InfoSource.offline
    let (archive, stats) ← Classification.Worker.run archive pending none
    reportDone "classify command completed"
      [numberField "received" stats.received, numberField "classified" stats.classified,
        ("db_path", .shown path)]
    pure (archive.store, .ok (Report.ofStats stats))

/-- Lists withdrawal requests. -/
def listRequests (filter : RequestFilter) (cursor : Option String) (count : Int32)
    (format : ListingFormat) (store : Store) : Logged (Store × Except Failure String) := do
  let archive := Archive.ofStore Config.standard store InfoSource.offline
  match ← archive.listRequests filter cursor count with
  | .error e => pure (store, .error (.listing e))
  | .ok page => do
    reportDone "withdrawals command completed"
      [("address", .shown filter.address.checksum), numberField "items" page.items.length,
        numberField "total" page.total.toNat]
    let output :=
      match format with
      | .table => Report.ofPage page
      | .json => Report.ofPageAsJson page
    pure (store, .ok output)

/-- Shows the row counts. -/
def showStatus (path : String) (disk : Database.Disk) (store : Store) :
    Logged (Store × Except Failure String) :=
  match store.rowCounts with
  | .error e => pure (store, .error (.rowCounts e))
  | .ok counts => do
    reportDone "status command completed"
      [numberField "transactions" counts.transactions, numberField "classified" counts.classified,
        ("db_path", .shown path)]
    pure (store, .ok (Report.ofCounts path (disk.sizeText path) counts))

/-- Shows what a validator published, after the node has proved to be there. -/
def showValidator (s : Surroundings) (path : String) (id : UInt64) (contract : Option Address) :
    Logged Result :=
  match s.nodeUrl, contract with
  | none, _ => pure (failed s.disk .missingNode)
  | some _, none => pure (failed s.disk .missingContract)
  | some url, some contract =>
    if !Network.isUrl url then pure (failed s.disk .invalidNode)
    else
      let check := InfoSource.probe s.network
      match check.reply with
      | .error e => ⟨⟨s.disk, check.requests, .error (.source e)⟩, check.events⟩
      | .ok block => do
        let _ ← (⟨(), check.events⟩ : Logged Unit)
        reportDone "connected to RPC endpoint" [numberField "block" block.toNat]
        match s.disk.openStore path with
        | (disk, .error fault) => pure ⟨disk, check.requests, .error (.ofFault path fault)⟩
        | (disk, .ok session) => do
          let archive := Archive.ofStore
            { Config.standard with infoContract := contract } session.store
            (InfoSource.ofNetwork s.network contract)
          let (archive, info) ←
            archive.findInfo (BitVec.ofNat 256 id.toNat)
          pure
            ⟨disk.close { session with store := archive.store },
              check.requests ++ archive.requests, .ok (Report.ofValidator id.toNat info)⟩

/-- Carries out a command. -/
def execute (s : Surroundings) (invocation : Invocation) : Logged Result :=
  match invocation.command with
  | .classify limit stakingContract =>
    withStore s.disk invocation.path fun _ => classify invocation.path limit stakingContract
  | .validator id contract => showValidator s invocation.path id contract
  | .requests address staker cursor count format =>
    withStore s.disk invocation.path fun _ =>
      listRequests ⟨address, staker.map fun id => BitVec.ofNat 256 id.toNat⟩ cursor count format
  | .status => withStore s.disk invocation.path (showStatus invocation.path)

/-! ### The program as a process -/

/-- The targets under which the parts of the program report; the commands report under that of the
program itself. -/
def targetOf (program : String) : Component → String
  | .labels => "opera_abi::matcher"
  | .cache => "opera_data::cache"
  | .source => "opera_data::source"
  | .archive => "opera_repo::repository"
  | .worker => "opera_repo::queue"
  | .command => program

/-- What can be seen of a run of the program from outside. -/
structure Exit where
  /-- The exit code: 0 if all is well, 1 for a failure, 2 for a command line that is none, and 101
  if the program stops halfway. -/
  code : Nat
  /-- What the program prints, the lines of its reports apart. -/
  output : String
  /-- The lines of its reports. -/
  lines : List String
  /-- What it complains of. -/
  complaint : Option String
deriving DecidableEq, Repr

/-- The text that tells the version. -/
def versionText : String :=
  "opera-enrich 0.1.0\n"

/-- What is seen of a command line that is none: help and the version are no errors. -/
def exitOfUsage : UsageError → Exit
  | .displayHelp => ⟨0, "", [], none⟩
  | .displayVersion => ⟨0, versionText, [], none⟩
  | _ => ⟨2, "", [], some "the command line cannot be read"⟩

/-- Runs the program on its arguments. -/
def runProgram (program : String) (filter : Option String) (s : Surroundings)
    (args : List String) : Database.Disk × List Network.Request × Exit :=
  match parse args with
  | .error e => (s.disk, [], exitOfUsage e)
  | .ok invocation =>
    match LogFilter.choose? filter invocation.quiet invocation.verbosity with
    | none => (s.disk, [], ⟨101, "", [], some "the filter of reports cannot be taken apart"⟩)
    | some filter =>
      let logged := execute s invocation
      let shown := logged.events.filter fun e => filter.allows (targetOf program e.component) e
      let lines := shown.map eventLine
      let rest := String.join (shown.map behindLine)
      match logged.value.output with
      | .ok output =>
        (logged.value.disk, logged.value.requests, ⟨0, output ++ rest, lines, none⟩)
      | .error e =>
        (logged.value.disk, logged.value.requests,
          ⟨1, rest, lines, some (String.intercalate ": " e.messages)⟩)

end OffChain.CommandLine
