import OffChain.Database.Name
import OffChain.Store.Basic

/-!
# Files of databases

What is known of a file system are its directories and the files with databases.  A path is made
absolute part by part, without a look at whether it leads through directories, except that it must
not lead through a file.  A file that is not there is created in a directory that is.

A database that is open for writing gets all its tables, and its file from then on goes with a log
of changes, unless the way of locking does not allow one.  Otherwise nothing is changed: the tables
have to be there, and a file that goes with a log can be read only by those who can use the log.
-/

namespace OffChain.Database

/-- A file that holds a database. -/
structure DatabaseFile where
  /-- Where it is. -/
  path : Path
  /-- Whether it goes with a log of changes. -/
  hasLog : Bool
  /-- The database. -/
  store : Store
deriving DecidableEq

/-- What there is at a path. -/
inductive Entry where
  | directory
  | file
  /-- Nothing, but there could be something. -/
  | absent
  /-- Nothing, since the way leads through a file or the name is too long. -/
  | unreachable
deriving DecidableEq, Repr

/-- Directories and databases in files. -/
structure Disk where
  /-- The working directory, which is there, as all directories on the way to it are. -/
  workingDirectory : Path
  /-- The other directories that are there. -/
  directories : List Path
  /-- The files. -/
  files : List DatabaseFile
deriving DecidableEq

namespace Disk

/-! ### Entries -/

/-- Whether a directory is there. -/
def isDirectory (d : Disk) (path : Path) : Bool :=
  path.isPrefixOf d.workingDirectory || d.directories.contains path

/-- The file at a path. -/
def fileAt? (d : Disk) (path : Path) : Option DatabaseFile :=
  d.files.find? fun f => f.path == path

/-- Whether the way to a path leads through a file. -/
def isObstructed (d : Disk) (path : Path) : Bool :=
  d.files.any fun f => f.path.isPrefixOf path && f.path != path

/-- Whether a name is too long for the directory that it is in. -/
def isTooLong (d : Disk) (path : Path) : Bool :=
  path.getLast?.any (fun name => Path.maxName < name.length) && d.isDirectory path.parent

/-- What there is at a path. -/
def entryAt (d : Disk) (path : Path) : Entry :=
  if d.isDirectory path then .directory
  else if (d.fileAt? path).isSome then .file
  else if d.isObstructed path || d.isTooLong path then .unreachable
  else .absent

/-- Writes a file. -/
def put (d : Disk) (file : DatabaseFile) : Disk :=
  { d with files := (d.files.filter fun f => f.path != file.path) ++ [file] }

/-- Where the text of a path begins. -/
def startOf (d : Disk) (text : Bytes) : Path :=
  if Path.isAbsolute text then [] else d.workingDirectory

/-! ### Making paths absolute -/

/-- The greatest number of bytes of the text of a path. -/
def maxPath : Nat := 512

/-- The number of bytes that are added to the text of a path for the files that go with it. -/
def suffixSize : Nat := 8

/-- One more part of a path; `none` once the path can lead nowhere. -/
def follow? (d : Disk) (path : Path) (part : Bytes) : Option Path :=
  if Path.isIdle part then some path
  else if Path.isBack part then some path.parent
  else if maxPath ≤ path.size + part.length + 1 then none
  else if d.entryAt (path ++ [part]) = .unreachable then none
  else some (path ++ [part])

/-- The path that a text stands for. -/
def resolve? (d : Disk) (text : Bytes) : Option Path :=
  ((Path.parts text).foldlM d.follow? (d.startOf text)).filter fun path =>
    !path.isEmpty && path.size + suffixSize ≤ maxPath

/-! ### Looking for files -/

/-- One more step on a way, from one directory to an entry. -/
def walk? (d : Disk) (path : Path) (part : Bytes) : Option Path :=
  if !d.isDirectory path then none
  else if Path.isIdle part then some path
  else if Path.isBack part then some path.parent
  else
    match d.entryAt (path ++ [part]) with
    | .directory => some (path ++ [part])
    | .file => some (path ++ [part])
    | _ => none

/-- Whether the text of a path leads to something, step by step. -/
def has (d : Disk) (text : Bytes) : Bool :=
  !text.isEmpty && ((Path.parts text).foldlM d.walk? (d.startOf text)).isSome

/-- The size of the database of a name as it is shown: of no file, for one in memory, and less than
a megabyte for the others.  The name is taken as the path of a file, whatever else it says. -/
def sizeText (d : Disk) (name : String) : String :=
  if name == ":memory:" then "N/A (in-memory)"
  else if d.has (bytesOf name) then "0 MB"
  else "N/A (file not found)"

/-! ### Opening -/

/-- Why a database is not open. -/
inductive Fault where
  /-- It cannot be opened. -/
  | closed
  /-- It can be opened, but not be made ready. -/
  | unready
deriving DecidableEq, Repr

/-- A database that is open, and the file that it goes back to. -/
structure Session where
  /-- The database. -/
  store : Store
  /-- The file and whether it goes with a log; `none` for a database that is gone once it is
  closed. -/
  home : Option (Path × Bool)
deriving DecidableEq

/-- The longest name that leaves room for the names of the files that go with it. -/
def maxDatabaseName : Nat :=
  Path.maxName - suffixSize

/-- Whether the files that go with a file could not be created. -/
def lacksRoom (path : Path) : Bool :=
  path.getLast?.any fun name => maxDatabaseName < name.length

/-- Opens a file for reading only. -/
def read (n : Name) (file : DatabaseFile) : Except Fault Session :=
  let isReadable :=
    n.isImmutable || (if n.allowsLog then file.hasLog && !n.isIndexReadOnly else !file.hasLog)
  if isReadable && file.store.isComplete then
    .ok ⟨{ file.store with isReadOnly := true }, some (file.path, file.hasLog)⟩
  else .error .unready

/-- Opens a file for writing. -/
def write (d : Disk) (n : Name) (file : DatabaseFile) : Disk × Except Fault Session :=
  if lacksRoom file.path then (d, .error .unready)
  else if n.allowsLog then
    if n.isIndexReadOnly then (d.put { file with hasLog := true }, .error .unready)
    else (d, .ok ⟨file.store.complete, some (file.path, true)⟩)
  else if file.hasLog then (d, .error .unready)
  else (d, .ok ⟨file.store.complete, some (file.path, false)⟩)

/-- Opens a file. -/
def openFile (d : Disk) (n : Name) (file : DatabaseFile) : Disk × Except Fault Session :=
  if n.isReadOnly then (d, read n file) else d.write n file

/-- Opens the file at a path, which may have to be created. -/
def openPath (d : Disk) (n : Name) (path : Path) : Disk × Except Fault Session :=
  match d.entryAt path, d.fileAt? path with
  | .file, some file => d.openFile n file
  | .absent, _ =>
    if n.mode = .create && d.isDirectory path.parent then
      let file : DatabaseFile := ⟨path, false, Store.blank⟩
      (d.put file).openFile n file
    else (d, .error .closed)
  | _, _ => (d, .error .closed)

/-- Opens the database of a name. -/
def openStore (d : Disk) (name : String) : Disk × Except Fault Session :=
  match Name.ofText? name with
  | none => (d, .error .closed)
  | some n =>
    if n.isPrivate then
      (d, if n.isReadOnly then .error .unready else .ok ⟨Store.empty, none⟩)
    else
      match d.resolve? n.path with
      | none => (d, .error .closed)
      | some path =>
        if (n.value? "modeof").all d.has then d.openPath n path else (d, .error .closed)

/-- The disk after a database was closed. -/
def close (d : Disk) (session : Session) : Disk :=
  match session.home with
  | some (path, hasLog) => d.put ⟨path, hasLog, { session.store with isReadOnly := false }⟩
  | none => d

end Disk

end OffChain.Database
