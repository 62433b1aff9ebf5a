import OffChain.Database.Path

/-!
# Names of databases

A database is named by the path of its file.  A name that begins with `file:` is a URL: an authority
can follow, which says nothing, then the path, and then options behind a question mark.  Bytes of
the path and the options can be written by a percent sign and two hexadecimal digits; a zero byte
ends the part that it is in.

The options say what is to be done with the file: whether it is only read, or created if it is not
there, or not touched at all because the database is kept in memory; and how it is locked.
-/

namespace OffChain.Database

/-! ### Options -/

/-- What is to be done with a file. -/
inductive Mode where
  /-- It is read. -/
  | readOnly
  /-- It is read and written. -/
  | readWrite
  /-- It is read and written, and created if it is not there. -/
  | create
  /-- Nothing; the database is in memory. -/
  | memory
deriving DecidableEq, Repr

namespace Mode

/-- The mode of a name. -/
def ofName? (name : Bytes) : Option Mode :=
  if name = bytesOf "ro" then some readOnly
  else if name = bytesOf "rw" then some readWrite
  else if name = bytesOf "rwc" then some create
  else if name = bytesOf "memory" then some memory
  else none

/-- How much a mode allows. -/
def weight : Mode → Nat
  | readOnly => 1
  | readWrite => 2
  | create => 3
  | memory => 4

/-- The mode after another one was asked for, which must not allow more, unless it leaves the file
alone. -/
def change? (mode next : Mode) : Option Mode :=
  if next = memory || next.weight ≤ mode.weight then some next else none

end Mode

/-- How a file is locked. -/
inductive Locking where
  /-- By the file system. -/
  | standard
  /-- Not at all. -/
  | none
  /-- By a further file. -/
  | lockFile
  /-- By the file system, for as long as it is open. -/
  | exclusive
  /-- There is no file. -/
  | memory
deriving DecidableEq, Repr

namespace Locking

/-- The way to lock that has a name. -/
def ofName? (name : Bytes) : Option Locking :=
  if name = bytesOf "unix" then some standard
  else if name = bytesOf "unix-none" then some none
  else if name = bytesOf "unix-dotfile" then some lockFile
  else if name = bytesOf "unix-excl" then some exclusive
  else if name = bytesOf "memdb" then some memory
  else Option.none

end Locking

/-! ### Truth values -/

/-- The digits of a number and the base that they are written in. -/
def numeralDigits (value : Bytes) : Nat × List Nat :=
  let digits (bs : Bytes) (base : Nat) : List Nat :=
    (((bs.map fun b => Hex.value? (Char.ofNat b.toNat)).takeWhile fun d => d.any (· < base)).map
      fun d => d.getD 0).dropWhile (· == 0)
  match value with
  | 48 :: x :: d :: rest =>
    if (x = 120 || x = 88) && (Hex.value? (Char.ofNat d.toNat)).isSome then
      (16, digits (d :: rest) 16)
    else (10, digits value 10)
  | _ => (10, digits value 10)

/-- The number that a text begins with; one beyond 31 bits counts as zero. -/
def leadingNumber (value : Bytes) : Nat :=
  let (base, digits) := numeralDigits value
  let n := digits.foldl (fun n d => base * n + d) 0
  if n < 0x80000000 then n else 0

/-- Whether a text is a truth value that holds: a word or a number whose last byte is not zero. -/
def isTrue (value : Bytes) : Bool :=
  match value with
  | [] => false
  | b :: _ =>
    if 48 ≤ b && b ≤ 57 then leadingNumber value % 256 != 0
    else
      let word := value.map fun b => if 65 ≤ b && b ≤ 90 then b + 32 else b
      [bytesOf "yes", bytesOf "true", bytesOf "on"].contains word

/-! ### Names -/

/-- What the name of a database says. -/
structure Name where
  /-- The text of the path of its file. -/
  path : Bytes
  /-- The options by name, as they are given. -/
  options : List (Bytes × Bytes)
  /-- What is to be done with the file. -/
  mode : Mode
  /-- How the file is locked. -/
  locking : Locking
deriving DecidableEq, Repr

namespace Name

/-- The name that is just a path. -/
def ofPath (path : Bytes) : Name :=
  ⟨path, [], .create, .standard⟩

/-! ### Reading -/

/-- The byte that begins a written byte. -/
def percent : UInt8 := 37

/-- The byte before the options. -/
def questionMark : UInt8 := 63

/-- The byte between options. -/
def ampersand : UInt8 := 38

/-- The byte before the value of an option. -/
def equalsSign : UInt8 := 61

/-- The byte that ends all. -/
def hash : UInt8 := 35

/-- The byte that two hexadecimal digits write. -/
def written? (high low : UInt8) : Option UInt8 := do
  let h ← Hex.value? (Char.ofNat high.toNat)
  let l ← Hex.value? (Char.ofNat low.toNat)
  some (UInt8.ofNat (16 * h + l))

/-- The bytes of a part, up to a zero byte that is written by digits. -/
def decode : Bytes → Bytes
  | [] => []
  | [b] => [b]
  | [b, c] => [b, c]
  | b :: high :: low :: rest =>
    if b = percent then
      match written? high low with
      | some c => if c = 0 then [] else c :: decode rest
      | none => b :: decode (high :: low :: rest)
    else b :: decode (high :: low :: rest)

/-- The option of a text, if it has a name. -/
def option? (text : Bytes) : Option (Bytes × Bytes) :=
  let name := text.takeWhile fun b => b != equalsSign
  let value := (text.drop name.length).drop 1
  if (decode name).isEmpty then none else some (decode name, decode value)

/-- What follows an authority that says nothing. -/
def afterAuthority? (text : Bytes) : Option Bytes :=
  if (bytesOf "//").isPrefixOf text then
    let rest := text.drop 2
    let authority := rest.takeWhile fun b => b != Path.slash
    if authority.isEmpty || authority == bytesOf "localhost" then
      some (rest.drop authority.length)
    else none
  else some text

/-- Takes in an option. -/
def adopt? (n : Name) (option : Bytes × Bytes) : Option Name :=
  let n := { n with options := n.options ++ [option] }
  if option.1 = bytesOf "mode" then do
    let next ← Mode.ofName? option.2
    let mode ← n.mode.change? next
    some { n with mode := mode }
  else if option.1 = bytesOf "cache" then
    if option.2 = bytesOf "shared" || option.2 = bytesOf "private" then some n else none
  else some n

/-- The last value of an option. -/
def lastValue? (n : Name) (option : String) : Option Bytes :=
  (n.options.reverse.find? fun o => o.1 == bytesOf option).map fun o => o.2

/-- The name of a text behind `file:`. -/
def ofUrl? (text : Bytes) : Option Name := do
  let text ← afterAuthority? text
  let text := text.takeWhile fun b => b != hash
  let path := text.takeWhile fun b => b != questionMark
  let options := (Text.splitAt ampersand ((text.drop path.length).drop 1)).filterMap option?
  let n ← options.foldlM adopt? (ofPath (decode path))
  match n.lastValue? "vfs" with
  | none => some n
  | some value => (Locking.ofName? value).map fun locking => { n with locking := locking }

/-- What begins the URL of a database. -/
def scheme : Bytes :=
  bytesOf "file:"

/-- What a text names; `none` for one that names no database. -/
def ofText? (s : String) : Option Name :=
  let text := bytesOf s
  if text.contains 0 then none
  else if scheme.isPrefixOf text then ofUrl? (text.drop scheme.length)
  else some (ofPath text)

/-! ### What is asked for -/

/-- The first value of an option. -/
def value? (n : Name) (option : String) : Option Bytes :=
  (n.options.find? fun o => o.1 == bytesOf option).map fun o => o.2

/-- Whether an option is set. -/
def isSet (n : Name) (option : String) : Bool :=
  (n.value? option).any isTrue

/-- Whether the database is in memory or in a file without a name. -/
def isNameless (n : Name) : Bool :=
  n.mode == .memory || n.path.isEmpty || n.path == bytesOf ":memory:"

/-- Whether nobody else can see the database. -/
def isPrivate (n : Name) : Bool :=
  n.isNameless || n.locking == .memory

/-- Whether the file is taken as one that never changes. -/
def isImmutable (n : Name) : Bool :=
  !n.isNameless && n.isSet "immutable"

/-- Whether the database is open for reading only. -/
def isReadOnly (n : Name) : Bool :=
  n.mode == .readOnly || n.isImmutable

/-- Whether changes can be kept in a log beside the file, which needs locks. -/
def allowsLog (n : Name) : Bool :=
  !(n.locking == .none || n.locking == .lockFile || n.isSet "nolock")

/-- Whether the index of the log must not be written. -/
def isIndexReadOnly (n : Name) : Bool :=
  n.isSet "readonly_shm" && (n.isReadOnly || n.locking != .exclusive)

end Name

end OffChain.Database
