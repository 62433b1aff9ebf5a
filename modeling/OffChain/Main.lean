import OffChain.CommandLine.Run
import OffChain.Json.Parser
import OffChain.Json.Printer
import OffChain.Store.Snapshot

/-!
# The program

Runs a command line on databases that are kept as documents in their files.  The network cannot be
reached from here.
-/

namespace OffChain

/-- Whether an action succeeds. -/
def succeeds {α : Type} (action : IO α) : IO Bool := do
  try
    discard action
    return true
  catch _ =>
    return false

/-- The text of a path. -/
def pathText (path : Database.Path) : String :=
  "/" ++ String.intercalate "/" (path.map Text.ofUtf8)

/-- Looks at what there is at a path; a file other than that of the database counts as one without
tables. -/
def survey (database : Option Database.Path) (disk : Database.Disk) (path : Database.Path) :
    IO Database.Disk := do
  let text := pathText path
  if ← succeeds (IO.FS.readBinFile text) then
    if database == some path then
      match (Json.parse? (← IO.FS.readFile text)).bind Store.ofJson? with
      | some store => return disk.put ⟨path, true, store⟩
      | none => throw (IO.userError (text ++ " is not a database"))
    else return disk.put ⟨path, true, Store.blank⟩
  else if ← succeeds (IO.FS.realPath text) then
    return { disk with directories := disk.directories ++ [path] }
  else return disk

/-- The paths on the way that the text of a path describes. -/
def pathsOn (start : Database.Path) (text : Bytes) : List Database.Path :=
  let step (seen : List Database.Path) (part : Bytes) : List Database.Path :=
    let path := seen.headD []
    (if Database.Path.isIdle part then path
      else if Database.Path.isBack part then path.parent
      else path ++ [part]) :: seen
  ((Database.Path.parts text).foldl step [start]).reverse

/-- The name of the database that a command line is about. -/
def nameOf? (args : List String) : Option Database.Name :=
  match CommandLine.parse args with
  | .ok invocation => Database.Name.ofText? invocation.path
  | .error _ => none

/-- What is there of the files that a command line is about. -/
def readDisk (args : List String) : IO Database.Disk := do
  let workingDirectory := Database.Path.ofText (Database.bytesOf (toString (← IO.currentDir)))
  let disk : Database.Disk := ⟨workingDirectory, [], []⟩
  let some name := nameOf? args | return disk
  let paths := pathsOn (disk.startOf name.path) name.path
  paths.foldlM (survey (if name.isPrivate then none else paths.getLast?)) disk

/-- Writes the database that a command line is about into its file. -/
def writeDisk (args : List String) (disk : Database.Disk) : IO Unit := do
  let some name := nameOf? args | return
  if !name.isPrivate then
    if let some file := (disk.resolve? name.path).bind disk.fileAt? then
      IO.FS.writeFile (pathText file.path) file.store.toJson.render

/-- Runs a command line; gives the exit code. -/
def runMain (args : List String) : IO UInt32 := do
  let network : Network := ⟨false, none, none, [], []⟩
  let surroundings : CommandLine.Surroundings :=
    ⟨← readDisk args, network, ← IO.getEnv "OPERA_RPC_URL"⟩
  let filter ← IO.getEnv "RUST_LOG"
  let (disk, _, exit) := CommandLine.runProgram "opera_enrich" filter surroundings args
  writeDisk args disk
  exit.lines.forM IO.println
  IO.print exit.output
  exit.complaint.forM fun complaint => IO.eprintln ("Error: " ++ complaint)
  return UInt32.ofNat exit.code

end OffChain

/-- The program. -/
def main (args : List String) : IO UInt32 :=
  OffChain.runMain args
