import OffChain.Bytes.Hex
import OffChain.Text.Split

/-!
# Paths of files

A path is the list of the names that lead from the root of the file system to a file or directory.
A name is a string of bytes without slashes.  The text of a path has slashes between the names; it
can also have parts that lead nowhere or one step back.
-/

namespace OffChain.Database

/-- The bytes of a text. -/
def bytesOf (s : String) : Bytes :=
  s.toUTF8.toList

/-- A path from the root. -/
abbrev Path := List Bytes

namespace Path

/-- The byte between names. -/
def slash : UInt8 := 47

/-- The parts of the text of a path. -/
def parts (text : Bytes) : List Bytes :=
  Text.splitAt slash text

/-- Whether the text of a path begins at the root. -/
def isAbsolute (text : Bytes) : Bool :=
  text.head? == some slash

/-- Whether a part of a path leads nowhere else. -/
def isIdle (part : Bytes) : Bool :=
  part.isEmpty || part == bytesOf "."

/-- Whether a part of a path leads one step back. -/
def isBack (part : Bytes) : Bool :=
  part == bytesOf ".."

/-- The number of bytes of the text of a path. -/
def size (p : Path) : Nat :=
  p.foldl (fun n name => n + name.length + 1) 0

/-- The path to where a path is, without the last name. -/
def parent (p : Path) : Path :=
  p.dropLast

/-- The path that a text leads to from the root, each part by itself. -/
def ofText (text : Bytes) : Path :=
  (parts text).foldl
    (fun p part => if isIdle part then p else if isBack part then p.parent else p ++ [part]) []

/-- The greatest number of bytes of a name. -/
def maxName : Nat := 255

end Path

end OffChain.Database
